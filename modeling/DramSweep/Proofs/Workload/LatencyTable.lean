import DramSweep.Proofs.Report.Latency
import DramSweep.Proofs.Workload.Holding
import DramSweep.Proofs.Workload.TableReading
import DramSweep.TableGroup

/-!
The table of average latencies. It is given for reports with and without packet latencies alike:
what a configuration needs are its read and queueing latency, and a packet latency that its file
lacks is tabulated as zero.
-/

namespace DramSweep

open Std (ExtTreeMap)
open Traverse
open Counters (latencyName packetKinds)

/-- The metrics of the latency table are the same for both kinds of workloads. -/
theorem TableGroup.metrics_of_latencies {mix : Bool} {group : TableGroup}
    (hgroup : group ∈ TableGroup.all mix) (hname : group.name = "average_latency_ns") :
    group.metrics = ["request_packet", "queueing", "DRAM", "response_packet"].map
      (latencyName · .nanoseconds) := by
  have hnames : ∀ other ∈ TableGroup.all mix, other.name = "average_latency_ns" →
      other.metrics = ["request_packet", "queueing", "DRAM", "response_packet"].map
        (latencyName · .nanoseconds) := by
    cases mix <;> decide
  exact hnames group hgroup hname

/-- No latency is a normalized metric. -/
theorem latencyName_ne_normalizedName {kind : String}
    (hkind : kind ∈ ["read", "queueing", "DRAM", "request_packet", "response_packet"])
    (unit : Counters.TimeUnit) (metric : String) :
    latencyName kind unit ≠ Workload.normalizedName metric := by
  refine Workload.ne_normalizedName ?_ metric
  revert kind
  cases unit <;> decide

namespace WorkloadSource

variable {tree : FileTree} {source : WorkloadSource} {loaded : Workload} {configuration : String}

/-- A report that is held after normalizing has its latencies from its file. -/
theorem exists_read_of_normalizeEach (hload : source.load tree = .ok loaded)
    {normalized : List String} {report : Report}
    (hheld : (loaded.normalizeEach normalized).reports[configuration]? = some report) :
    ∃ bytes references earlier, Report.read bytes references = .ok earlier ∧
      Counters.ofBytes bytes = source.countersIn tree configuration ∧
      ∀ kind ∈ ["read", "queueing", "DRAM", "request_packet", "response_packet"], ∀ unit,
        report.get? (latencyName kind unit) = earlier.get? (latencyName kind unit) := by
  obtain ⟨earlier, hearlier, honly⟩ := exists_loadReport_of_normalizeEach hload hheld
  obtain ⟨bytes, references, hread, hbytes⟩ := exists_read_of_loadReport hearlier
  exact ⟨bytes, references, earlier, hread, hbytes,
    fun kind hkind unit => honly.get?_eq (latencyName_ne_normalizedName hkind unit)⟩

end WorkloadSource

namespace Workload

variable {workload : Workload}

theorem normalizeEach_eq_afterChanges (workload : Workload) (metrics : List String) :
    workload.normalizeEach metrics = workload.afterChanges (metrics.map .normalize) := by
  unfold normalizeEach afterChanges
  rw [List.foldl_map]
  rfl

theorem hasReports_normalizeEach {tree : FileTree} {source : WorkloadSource} {loaded : Workload}
    (hload : source.load tree = .ok loaded) (normalized : List String) :
    (loaded.normalizeEach normalized).HasReports := by
  rw [normalizeEach_eq_afterChanges]
  exact ((readFrom_of_load hload).of_withoutDerived_eq
    (loaded.withoutDerived_afterChanges _)).hasReports

/-- Both forms of a table are given when the feature and all values are. -/
theorem tables_ok_iff (hreports : workload.HasReports) (metrics : List String) (sink : String)
    {table : Except MetricError String}
    (htable : table = workload.wide metrics ∨ table = workload.tidy metrics) :
    (appendTo table sink).1 = .ok () ↔ (∃ feature, workload.feature = .ok feature) ∧
      ∀ configuration ∈ workload.configurations, ∀ metric ∈ metrics,
        workload.has metric configuration := by
  have hfailure : failure? table =
      (failure? workload.feature).or (failure? (workload.allValues metrics)) := by
    rcases htable with rfl | rfl
    · exact failure?_wide metrics
    · exact failure?_tidy metrics
  rw [appendTo_eq_ok_iff, hfailure, Option.or_eq_none_iff, failure?_eq_none_iff,
    failure?_allValues hreports, Option.map_eq_none_iff, firstMissing?_eq_none_iff]
  exact and_congr_right fun _ => ⟨fun h c hc m hm => h m hm c hc, fun h m hm c hc => h c hc m hm⟩

theorem has_eq_isSome {configuration : String} {report : Report}
    (hreport : workload.reports[configuration]? = some report) (metric : String) :
    workload.has metric configuration = (report.get? metric).isSome := by
  unfold has
  rw [hreport]
  rfl

theorem value_of_get? {configuration : String} {report : Report}
    (hreport : workload.reports[configuration]? = some report) {metric : String} {number : Float}
    (hvalue : report.get? metric = some (.single number)) :
    workload.value metric configuration = .ok number :=
  (value_eq_ok_iff _ _ _).mpr ⟨report, _, hreport, hvalue, rfl⟩

end Workload

open Workload in
/-- The latency table of a loaded workload, normalized any number of times, is given exactly when
the feature is and every listed configuration has a read and a queueing latency, whatever packet
latencies the files have. Wherever these two are there, the memory latency is the read latency less
the queueing latency and less each packet latency in the file, and a packet latency that the file
lacks is zero. -/
theorem latency_table_complete {tree : FileTree} {source : WorkloadSource} {loaded : Workload}
    (hload : source.load tree = .ok loaded) (normalized : List String) {workload : Workload}
    (hworkload : workload = loaded.normalizeEach normalized) {mix : Bool} {group : TableGroup}
    (hgroup : group ∈ TableGroup.all mix) (hname : group.name = "average_latency_ns")
    (sink : String) :
    let given := (∃ feature, workload.feature = .ok feature) ∧
      ∀ configuration ∈ workload.configurations,
        workload.has "read_latency_ns_avg" configuration ∧
          workload.has "queueing_latency_ns_avg" configuration
    ((appendTo (workload.wide group.metrics) sink).1 = .ok () ↔ given) ∧
    ((appendTo (workload.tidy group.metrics) sink).1 = .ok () ↔ given) ∧
    ∀ unit configuration read queueing,
      workload.value (latencyName "read" unit) configuration = .ok read →
      workload.value (latencyName "queueing" unit) configuration = .ok queueing →
      let inFile := (source.countersIn tree configuration).packetLatency? unit
      workload.value (latencyName "DRAM" unit) configuration =
        .ok ((packetKinds.filterMap inFile).foldl (· - ·) (read - queueing)) ∧
      ∀ packet ∈ packetKinds,
        workload.value (latencyName packet unit) configuration = .ok ((inFile packet).getD 0) := by
  subst hworkload
  intro given
  have hreports := hasReports_normalizeEach hload normalized
  have htable : ∀ table,
      table = (loaded.normalizeEach normalized).wide group.metrics ∨
        table = (loaded.normalizeEach normalized).tidy group.metrics →
      ((appendTo table sink).1 = .ok () ↔ given) := by
    intro table hform
    rw [tables_ok_iff hreports group.metrics sink hform]
    refine and_congr_right fun _ => forall₂_congr fun configuration hlisted => ?_
    obtain ⟨report, hreport⟩ :=
      exists_report_of_mem (hreports.configurations configuration hlisted)
    obtain ⟨bytes, references, earlier, hread, -, hsame⟩ :=
      WorkloadSource.exists_read_of_normalizeEach hload hreport
    have hlatencies := Report.isSome_latencies_iff_of_read hread .nanoseconds
    rw [TableGroup.metrics_of_latencies hgroup hname, List.forall_mem_map]
    simp only [has_eq_isSome hreport]
    rw [← hsame "read" (by simp), ← hsame "queueing" (by simp)] at hlatencies
    refine Iff.trans (forall₂_congr fun kind hkind => ?_) hlatencies
    have hlatency : ["request_packet", "queueing", "DRAM", "response_packet"] ⊆
        ["read", "queueing", "DRAM", "request_packet", "response_packet"] := by decide
    rw [hsame kind (hlatency hkind)]
  refine ⟨htable _ (Or.inl rfl), htable _ (Or.inr rfl), ?_⟩
  intro unit configuration read queueing hreadValue hqueueingValue inFile
  obtain ⟨report, readLatency, hreport, hreadLatency, hread⟩ :=
    (value_eq_ok_iff _ _ _).mp hreadValue
  obtain ⟨_, queueingLatency, hreport', hqueueingLatency, hqueueing⟩ :=
    (value_eq_ok_iff _ _ _).mp hqueueingValue
  cases hreport.symm.trans hreport'
  obtain ⟨bytes, references, earlier, hfile, hbytes, hsame⟩ :=
    WorkloadSource.exists_read_of_normalizeEach hload hreport
  rw [hsame "read" (by simp)] at hreadLatency
  rw [hsame "queueing" (by simp)] at hqueueingLatency
  obtain ⟨hlatency, hpackets⟩ := Report.latencies_of_read hfile unit
    (by rw [hreadLatency, Option.map_some, hread])
    (by rw [hqueueingLatency, Option.map_some, hqueueing])
  have hinFile : (Report.ofBytes bytes).counters.packetLatency? unit = inFile :=
    congrArg (·.packetLatency? unit) hbytes
  rw [hinFile] at hlatency hpackets
  constructor
  · exact value_of_get? hreport ((hsame "DRAM" (by simp) unit).trans hlatency)
  · intro packet hpacket
    have hkind : packet ∈ ["read", "queueing", "DRAM", "request_packet", "response_packet"] := by
      rcases Counters.mem_packetKinds hpacket with rfl | rfl <;> simp
    exact value_of_get? hreport ((hsame packet hkind unit).trans (hpackets packet hpacket))

/-- Reports of one workload in two configurations: one without packet latencies, and one with one of
the two. -/
def twoFormatsTree : FileTree :=
  let file (more : List String) := Entry.file
    ((["ramulator.record_insts_core_0 100", "ramulator.record_cycs_core_0 50",
      "ramulator.incoming_requests_per_channel 10", "ramulator.read_latency_ns_avg 60",
      "ramulator.queueing_latency_ns_avg 20"] ++ more).flatMap fun line =>
        Bytes.ofText (line ++ "\n"))
  { entries := .ofList [(["stats"], .directory), (["stats", "mcf"], .directory),
      (["stats", "mcf", "DDR3.stats"], file []),
      (["stats", "mcf", "DDR4.stats"], file ["ramulator.request_packet_latency_ns_avg 5"])] }

def twoFormats : WorkloadSource where
  directory := ⟨"stats"⟩
  name := "mcf"
  configurations := ["DDR3", "DDR4"]
  reference := "DDR3"
  programs := none

theorem latency_table_complete_two_formats :
    ∃ loaded group, twoFormats.load twoFormatsTree = .ok loaded ∧ group ∈ TableGroup.all false ∧
      group.name = "average_latency_ns" ∧
      let workload := loaded.normalizeEach ["ipc", "row_hit_rate"]
      (Workload.appendTo (workload.wide group.metrics) "").1 = .ok () ∧
      workload.value "read_latency_ns_avg" "DDR4" = .ok 60 ∧
      workload.value "queueing_latency_ns_avg" "DDR4" = .ok 20 ∧
      workload.value "DRAM_latency_ns_avg" "DDR4" = .ok (60 - 20 - 5) ∧
      workload.value "response_packet_latency_ns_avg" "DDR4" = .ok 0 := by
  have hgroup : ∃ group ∈ TableGroup.all false, group.name = "average_latency_ns" := by decide
  obtain ⟨group, hmem, hname⟩ := hgroup
  have hfacts : ((twoFormats.load twoFormatsTree).toOption.any fun loaded =>
      let workload := loaded.normalizeEach ["ipc", "row_hit_rate"]
      workload.feature.toOption.isSome &&
      (workload.configurations.all fun configuration =>
        workload.has "read_latency_ns_avg" configuration &&
          workload.has "queueing_latency_ns_avg" configuration) &&
      (workload.value "read_latency_ns_avg" "DDR4").toOption = some 60 &&
      (workload.value "queueing_latency_ns_avg" "DDR4").toOption = some 20) = true := by
    decide +kernel
  have hpackets : packetKinds.filterMap
        ((twoFormats.countersIn twoFormatsTree "DDR4").packetLatency? .nanoseconds) = [5] ∧
      (twoFormats.countersIn twoFormatsTree "DDR4").packetLatency? .nanoseconds
        "response_packet" = none := by
    decide +kernel
  obtain ⟨loaded, hloaded⟩ : ∃ loaded, (twoFormats.load twoFormatsTree).toOption = some loaded := by
    rw [← Option.isSome_iff_exists]
    exact Option.isSome_of_any hfacts
  rw [hloaded] at hfacts
  simp only [Option.any_some, Bool.and_eq_true, decide_eq_true_eq, List.all_eq_true] at hfacts
  obtain ⟨⟨⟨hfeature, hmeasured⟩, hread⟩, hqueueing⟩ := hfacts
  rw [toOption_eq_some_iff] at hread hqueueing
  obtain ⟨feature, hfeature⟩ := Option.isSome_iff_exists.mp hfeature
  have hload := toOption_eq_some_iff.mp hloaded
  obtain ⟨hwide, -, hvalues⟩ :=
    latency_table_complete hload ["ipc", "row_hit_rate"] rfl hmem hname ""
  obtain ⟨hlatency, hzero⟩ := hvalues .nanoseconds "DDR4" 60 20 hread hqueueing
  have hresponse := hzero "response_packet" (by simp [packetKinds])
  rw [hpackets.1, List.foldl_cons, List.foldl_nil] at hlatency
  rw [hpackets.2, Option.getD_none] at hresponse
  exact ⟨loaded, group, hload, hmem, hname,
    hwide.mpr ⟨⟨feature, toOption_eq_some_iff.mp hfeature⟩, hmeasured⟩, hread, hqueueing, hlatency,
    hresponse⟩

end DramSweep
