import DramSweep.Proofs.Report.IndexedTables

/-!
When a metric is derived. Every metric of a report is one of a fixed list of candidates, and each
candidate is there exactly when all that it is computed from was found and no denominator is zero.
The only metrics recorded for want of an input are the packet latencies of a report with a memory
latency.
-/

namespace DramSweep

open Std (ExtTreeMap)

namespace Counters

/-- The metrics that a report can have on its own. -/
def derivedNames : List String :=
  ["max_cpu_cycles", "ipc", "row_hit_rate", "row_miss_rate", "row_conflict_rate", "BLP",
    "effective_BLP", "request_packet_latency_avg", "response_packet_latency_avg",
    "DRAM_latency_avg", "request_packet_latency_ns_avg", "response_packet_latency_ns_avg",
    "DRAM_latency_ns_avg", "bandwidth", "bandwidth_utilization", "MPKI"]

theorem nodup_derivedNames : derivedNames.Nodup := by
  decide +kernel

/-- The names of the candidates that have a value are among the names of all, in order. -/
theorem available_sublist (table : List (String × Option Quantity)) :
    ((table.filterMap fun (name, value?) => value?.map (name, ·)).map Prod.fst).Sublist
      (table.map Prod.fst) := by
  induction table with
  | nil => exact List.Sublist.refl _
  | cons candidate rest ih =>
      obtain ⟨name, value?⟩ := candidate
      cases value? with
      | none => simpa using ih.cons name
      | some value => simpa using ih

theorem mem_available_iff (table : List (String × Option Quantity)) (name : String)
    (value : Quantity) :
    (name, value) ∈ (table.filterMap fun (name, value?) => value?.map (name, ·)) ↔
      (name, some value) ∈ table := by
  rw [List.mem_filterMap]
  constructor
  · rintro ⟨⟨other, value?⟩, hmem, hvalue⟩
    obtain ⟨found, rfl, heq⟩ := Option.map_eq_some_iff.mp hvalue
    cases heq
    exact hmem
  · intro h
    exact ⟨(name, some value), h, rfl⟩

section Candidates

variable {counters : Counters}

theorem map_fst_candidates (counters : Counters) :
    counters.candidates.map Prod.fst = derivedNames := by
  simp [candidates, derivedNames, latencyName, TimeUnit.infixed]

/-- A candidate is looked up under its own name, and no other candidate hides it. -/
theorem getElem?_derived_of_mem {name : String} {value? : Option Quantity}
    (h : (name, value?) ∈ counters.candidates) : counters.derived[name]? = value? := by
  have hnodup : (counters.candidates.map Prod.fst).Nodup := by
    rw [map_fst_candidates]
    exact nodup_derivedNames
  unfold derived
  cases value? with
  | some value =>
      have hdistinct := hnodup.sublist (available_sublist counters.candidates)
      refine ExtTreeMap.getElem?_ofList_of_mem (by simp) ?_ ((mem_available_iff _ _ _).mpr h)
      exact (List.pairwise_map.mp hdistinct).imp (by simp)
  | none =>
      apply ExtTreeMap.getElem?_ofList_of_contains_eq_false
      rw [← Bool.not_eq_true, List.contains_iff_mem]
      intro hmem
      obtain ⟨⟨other, value⟩, havailable, rfl⟩ := List.mem_map.mp hmem
      have hvalue := (mem_available_iff _ _ _).mp havailable
      cases List.inj_on_of_nodup_map hnodup h hvalue rfl

/-- Nothing but a candidate is derived. -/
theorem mem_derivedNames_of_mem_derived {name : String} (h : name ∈ counters.derived) :
    name ∈ derivedNames := by
  unfold derived at h
  rw [ExtTreeMap.mem_ofList, List.contains_iff_mem] at h
  rw [← map_fst_candidates counters]
  exact (available_sublist counters.candidates).subset h

end Candidates

section Presence

/-- A quotient is there when both values are and the denominator is not zero. -/
theorem isSome_ratio_iff (num den : Option Float) :
    (ratio num den).isSome ↔ num.isSome ∧ ∃ value, den = some value ∧ value != 0 := by
  cases num with
  | none => simp [ratio]
  | some n =>
      cases den with
      | none => simp [ratio]
      | some d => by_cases hzero : (d == 0) = true <;> simp [ratio, hzero, bne]

/-- A value computed from two scalars is there when both scalars are. -/
theorem isSome_bind_map_iff {α β γ : Type} (f : α → β → γ) (a : Option α) (b : Option β) :
    (a.bind fun x => b.map (f x)).isSome ↔ a.isSome ∧ b.isSome := by
  cases a <;> cases b <;> simp

variable (counters : Counters)

theorem isSome_ipc_iff : counters.ipc.isSome ↔
    ∃ insts cycles, counters.entries? "cpu_insts" 0 = some insts ∧
      counters.entries? "cpu_cycles" 0 = some cycles ∧ insts.length = cycles.length ∧
      ∀ entry ∈ cycles, entry.2 != 0 := by
  unfold ipc values?
  cases hinsts : counters.entries? "cpu_insts" 0 with
  | none => simp
  | some insts =>
      cases hcycles : counters.entries? "cpu_cycles" 0 with
      | none => simp
      | some cycles =>
          by_cases hlength : insts.length = cycles.length
          · have hsnd : ((insts.map Prod.snd).zip (cycles.map Prod.snd)).map Prod.snd =
                cycles.map Prod.snd := List.map_snd_zip (by simp [hlength])
            have hpairs : (∀ pair ∈ (insts.map Prod.snd).zip (cycles.map Prod.snd),
                (ratio (some pair.1) (some pair.2)).isSome) ↔
                  ∀ entry ∈ cycles, entry.2 != 0 := by
              calc
                _ ↔ ∀ pair ∈ (insts.map Prod.snd).zip (cycles.map Prod.snd), pair.2 != 0 := by
                  simp [isSome_ratio_iff]
                _ ↔ ∀ c ∈ ((insts.map Prod.snd).zip (cycles.map Prod.snd)).map Prod.snd,
                    c != 0 := by rw [List.forall_mem_map]
                _ ↔ _ := by rw [hsnd, List.forall_mem_map]
            simp only [Option.map_some, Option.bind_some, List.length_map, hlength, if_true]
            refine ((Traverse.isSome_mapM_iff _ _).trans hpairs).trans ?_
            simp [hlength]
          · simp [hlength]

theorem isSome_requestRate_iff (count : String) : (counters.requestRate count).isSome ↔
    count ∈ counters.memory ∧
      ∃ requests, counters.memory["incoming_requests"]? = some requests ∧ requests != 0 := by
  unfold requestRate
  rw [isSome_ratio_iff, ExtTreeMap.mem_iff_isSome_getElem?]

theorem isSome_dramLatency_iff (unit : TimeUnit) : (counters.dramLatency unit).isSome ↔
    latencyName "read" unit ∈ counters.memory ∧
      latencyName "queueing" unit ∈ counters.memory := by
  unfold dramLatency
  rw [isSome_bind_map_iff, ExtTreeMap.mem_iff_isSome_getElem?,
    ExtTreeMap.mem_iff_isSome_getElem?]

theorem isSome_absentPacketLatency_iff (packet : String) (unit : TimeUnit) :
    (counters.absentPacketLatency packet unit).isSome ↔
      (counters.dramLatency unit).isSome ∧ latencyName packet unit ∉ counters.memory := by
  rw [← ExtTreeMap.contains_iff_mem]
  unfold absentPacketLatency
  cases (counters.dramLatency unit).isSome <;>
    cases counters.memory.contains (latencyName packet unit) <;> simp

theorem isSome_bandwidth_iff : counters.bandwidth.isSome ↔
    "write_bandwidth" ∈ counters.memory ∧ "read_bandwidth" ∈ counters.memory := by
  unfold bandwidth
  rw [isSome_bind_map_iff, ExtTreeMap.mem_iff_isSome_getElem?,
    ExtTreeMap.mem_iff_isSome_getElem?]

theorem isSome_bandwidthUtilization_iff : counters.bandwidthUtilization.isSome ↔
    counters.bandwidth.isSome ∧ ∃ maximum,
      (counters.memory["maximum_internal_bandwidth"]?).or
        counters.memory["maximum_bandwidth"]? = some maximum ∧ maximum != 0 := by
  unfold bandwidthUtilization
  rw [isSome_ratio_iff]

theorem isSome_mpki_iff : counters.mpki.isSome ↔
    "incoming_requests" ∈ counters.memory ∧ ∃ first rest,
      counters.entries? "cpu_insts" 0 = some (first :: rest) ∧ first.2 != 0 := by
  unfold mpki values?
  rw [isSome_ratio_iff, Option.isSome_map, ← ExtTreeMap.mem_iff_isSome_getElem?]
  cases counters.entries? "cpu_insts" 0 with
  | none => simp
  | some entries => cases entries <;> simp

/-- The deepest dimension is the greatest one with entries. -/
theorem depth?_eq_some_iff (family : String) (depth : Nat) :
    counters.depth? family = some depth ↔
      (counters.entries? family depth).isSome ∧
        ∀ other, (counters.entries? family other).isSome → other ≤ depth := by
  unfold depth? entries?
  cases counters.indexed[family]? with
  | none => simp
  | some dimensions =>
      simp only [Option.bind_some, ExtTreeMap.maxKey?_eq_some_iff_mem_and_forall,
        ExtTreeMap.mem_iff_isSome_getElem?, Nat.isLE_compare]

theorem isSome_depth?_iff (family : String) :
    (counters.depth? family).isSome ↔
      ∃ dimension, (counters.entries? family dimension).isSome := by
  unfold depth? entries?
  cases counters.indexed[family]? with
  | none => simp
  | some dimensions =>
      simp only [Option.bind_some, ← ExtTreeMap.mem_iff_isSome_getElem?]
      rw [ExtTreeMap.isSome_maxKey?_iff_ne_empty, Ne, ExtTreeMap.eq_empty_iff_forall_not_mem]
      simp

/-- The requests being served are there when the family has any entry. -/
theorem isSome_servingRequests_iff : counters.servingRequests.isSome ↔
    ∃ dimension, (counters.entries? "total_serving_requests" dimension).isSome := by
  rw [← isSome_depth?_iff]
  unfold servingRequests deepest?
  cases hdepth : counters.depth? "total_serving_requests" with
  | none => simp
  | some depth =>
      have hentries := ((depth?_eq_some_iff _ _ _).mp hdepth).1
      simpa [values?] using hentries

theorem isSome_bankParallelism_iff : counters.bankParallelism.isSome ↔
    ∃ depth entries cycles, counters.depth? "total_serving_requests" = some depth ∧
      counters.entries? "total_serving_requests" depth = some entries ∧
      counters.maxCpuCycles = some cycles ∧ cycles * entries.length.toFloat != 0 := by
  unfold bankParallelism servingRequests deepest? values?
  cases hdepth : counters.depth? "total_serving_requests" with
  | none => simp
  | some depth =>
      cases hentries : counters.entries? "total_serving_requests" depth with
      | none => simp [hentries]
      | some entries =>
          cases hcycles : counters.maxCpuCycles with
          | none => simp [hentries, ratio]
          | some cycles => simp [hentries, isSome_ratio_iff]

theorem isSome_effectiveBankParallelism_iff : counters.effectiveBankParallelism.isSome ↔
    (∃ dimension, (counters.entries? "total_serving_requests" dimension).isSome) ∧
      ∃ active, counters.memory["DRAM_active_cycles"]? = some active ∧ active != 0 := by
  rw [← isSome_servingRequests_iff]
  unfold effectiveBankParallelism
  cases counters.servingRequests with
  | none => simp
  | some serving => simp [isSome_ratio_iff]

/-- The maximum is that of an actual list of cores, which the tables never hold empty. -/
theorem isSome_maxCpuCycles_iff {counters : Counters}
    (hne : ∀ entries, counters.entries? "cpu_cycles" 0 = some entries → entries ≠ []) :
    counters.maxCpuCycles.isSome ↔ (counters.entries? "cpu_cycles" 0).isSome := by
  unfold maxCpuCycles values?
  cases hentries : counters.entries? "cpu_cycles" 0 with
  | none => simp
  | some entries =>
      cases entries with
      | nil => exact absurd rfl (hne [] hentries)
      | cons first rest => simp

end Presence

/-- The tables of a file hold no empty list of entries. -/
theorem ne_nil_of_entries_ofBytes {bytes : Bytes} {family : String} {dimension : Nat}
    {entries : List IndexedEntry}
    (h : (ofBytes bytes).entries? family dimension = some entries) : entries ≠ [] := by
  rw [ofBytes_eq_ofPairs] at h
  unfold ofPairs at h
  rw [entries?_ofStatistics, filed_eq_some_iff] at h
  exact h.1

end Counters

namespace Report

variable {bytes : Bytes} {references : Option (List Report)} {report : Report}

/-- Weighted speedup aside, the metrics of a report are the candidates that have a value. -/
theorem getElem?_derived_of_read (h : read bytes references = .ok report) {name : String}
    (hname : name ≠ "weighted_speedup") {value? : Option Quantity}
    (hmem : (name, value?) ∈ report.counters.candidates) : report.derived[name]? = value? := by
  rw [derived_of_read h hname]
  rw [counters_of_read h] at hmem
  exact Counters.getElem?_derived_of_mem hmem

theorem mem_derived_of_read (h : read bytes references = .ok report) {name : String}
    (hname : name ≠ "weighted_speedup") {value? : Option Quantity}
    (hmem : (name, value?) ∈ report.counters.candidates) :
    name ∈ report.derived ↔ value?.isSome := by
  rw [ExtTreeMap.mem_iff_isSome_getElem?, getElem?_derived_of_read h hname hmem]

/-- A metric that is a single number is there when its number is. -/
theorem mem_derived_single (h : read bytes references = .ok report) {name : String}
    (value? : Option Float) (hname : name ≠ "weighted_speedup")
    (hmem : (name, value?.map Quantity.single) ∈ report.counters.candidates) :
    name ∈ report.derived ↔ value?.isSome := by
  rw [mem_derived_of_read h hname hmem, Option.isSome_map]

theorem mem_derived_dramLatency (h : read bytes references = .ok report)
    (unit : Counters.TimeUnit) :
    Counters.latencyName "DRAM" unit ∈ report.derived ↔
      (report.counters.dramLatency unit).isSome := by
  apply mem_derived_single h
  · cases unit <;> decide
  · cases unit <;> simp [Counters.candidates]

theorem mem_derived_packetLatency (h : read bytes references = .ok report)
    (unit : Counters.TimeUnit) {packet : String}
    (hpacket : packet ∈ ["request_packet", "response_packet"]) :
    Counters.latencyName packet unit ∈ report.derived ↔
      (report.counters.absentPacketLatency packet unit).isSome := by
  have hcases : packet = "request_packet" ∨ packet = "response_packet" := by
    simpa using hpacket
  apply mem_derived_single h
  · rcases hcases with rfl | rfl <;> cases unit <;> decide
  · rcases hcases with rfl | rfl <;> cases unit <;> simp [Counters.candidates]

/-- The greatest number of cycles is recorded as it is computed. -/
theorem derived_maxCpuCycles_iff (h : read bytes references = .ok report) (cycles : Float) :
    report.derived["max_cpu_cycles"]? = some (.single cycles) ↔
      report.counters.maxCpuCycles = some cycles := by
  have hmem : ("max_cpu_cycles", report.counters.maxCpuCycles.map Quantity.single) ∈
      report.counters.candidates := by
    simp [Counters.candidates]
  rw [getElem?_derived_of_read h (by decide) hmem]
  cases report.counters.maxCpuCycles <;> simp

end Report

open Counters in
/-- Which metrics a report has. Each is derived exactly when all its inputs were found and no
denominator is zero; packet latencies are recorded for a report that has a memory latency and lacks
them. Weighted speedup needs other reports and is the only further metric. -/
theorem derived_metrics_exact {bytes : Bytes} {references : Option (List Report)}
    {report : Report} (h : Report.read bytes references = .ok report) :
    ("max_cpu_cycles" ∈ report.derived ↔
      (report.counters.entries? "cpu_cycles" 0).isSome) ∧
    ("ipc" ∈ report.derived ↔ ∃ insts cycles,
      report.counters.entries? "cpu_insts" 0 = some insts ∧
      report.counters.entries? "cpu_cycles" 0 = some cycles ∧
      insts.length = cycles.length ∧ ∀ entry ∈ cycles, entry.2 != 0) ∧
    (∀ count rate, (count, rate) ∈ [("row_hits", "row_hit_rate"),
        ("row_misses", "row_miss_rate"), ("row_conflicts", "row_conflict_rate")] →
      (rate ∈ report.derived ↔ count ∈ report.counters.memory ∧ ∃ requests,
        report.counters.memory["incoming_requests"]? = some requests ∧ requests != 0)) ∧
    ("BLP" ∈ report.derived ↔ ∃ depth entries cycles,
      report.counters.entries? "total_serving_requests" depth = some entries ∧
      (∀ other, (report.counters.entries? "total_serving_requests" other).isSome →
        other ≤ depth) ∧
      report.derived["max_cpu_cycles"]? = some (.single cycles) ∧
      cycles * entries.length.toFloat != 0) ∧
    ("effective_BLP" ∈ report.derived ↔
      (∃ dimension,
        (report.counters.entries? "total_serving_requests" dimension).isSome) ∧
      ∃ active, report.counters.memory["DRAM_active_cycles"]? = some active ∧ active != 0) ∧
    (∀ unit,
      (latencyName "DRAM" unit ∈ report.derived ↔
        latencyName "read" unit ∈ report.counters.memory ∧
        latencyName "queueing" unit ∈ report.counters.memory) ∧
      ∀ packet ∈ ["request_packet", "response_packet"],
        (latencyName packet unit ∈ report.derived ↔
          latencyName "DRAM" unit ∈ report.derived ∧
          latencyName packet unit ∉ report.counters.memory)) ∧
    ("bandwidth" ∈ report.derived ↔
      "write_bandwidth" ∈ report.counters.memory ∧
      "read_bandwidth" ∈ report.counters.memory) ∧
    ("bandwidth_utilization" ∈ report.derived ↔ "bandwidth" ∈ report.derived ∧
      ∃ maximum, (report.counters.memory["maximum_internal_bandwidth"]?).or
        report.counters.memory["maximum_bandwidth"]? = some maximum ∧ maximum != 0) ∧
    ("MPKI" ∈ report.derived ↔ "incoming_requests" ∈ report.counters.memory ∧
      ∃ first rest, report.counters.entries? "cpu_insts" 0 = some (first :: rest) ∧
        first.2 != 0) ∧
    (∀ name ∈ report.derived, name = "weighted_speedup" ∨ name ∈ derivedNames) := by
  refine ⟨?_, ?_, ?_, ?_, ?_, ?_, ?_, ?_, ?_, ?_⟩
  · rw [Report.mem_derived_single h report.counters.maxCpuCycles (by decide)
      (by simp [candidates])]
    apply isSome_maxCpuCycles_iff
    intro entries hentries
    rw [Report.counters_of_read h] at hentries
    exact ne_nil_of_entries_ofBytes hentries
  · have hmem : ("ipc", report.counters.ipc.map Quantity.perCore) ∈
        report.counters.candidates := by
      simp [candidates]
    rw [← isSome_ipc_iff, Report.mem_derived_of_read h (by decide) hmem, Option.isSome_map]
  · intro count rate hrate
    have hcases : (count, rate) = ("row_hits", "row_hit_rate") ∨
        (count, rate) = ("row_misses", "row_miss_rate") ∨
        (count, rate) = ("row_conflicts", "row_conflict_rate") := by
      simpa using hrate
    rw [← isSome_requestRate_iff]
    apply Report.mem_derived_single h
    · rcases hcases with heq | heq | heq <;> cases heq <;> decide
    · rcases hcases with heq | heq | heq <;> cases heq <;> simp [candidates]
  · rw [Report.mem_derived_single h report.counters.bankParallelism (by decide)
      (by simp [candidates]), isSome_bankParallelism_iff]
    simp only [depth?_eq_some_iff, Report.derived_maxCpuCycles_iff h]
    constructor
    · rintro ⟨depth, entries, cycles, ⟨_, hdeepest⟩, hentries, hcycles, hzero⟩
      exact ⟨depth, entries, cycles, hentries, hdeepest, hcycles, hzero⟩
    · rintro ⟨depth, entries, cycles, hentries, hdeepest, hcycles, hzero⟩
      exact ⟨depth, entries, cycles, ⟨by simp [hentries], hdeepest⟩, hentries, hcycles, hzero⟩
  · rw [Report.mem_derived_single h report.counters.effectiveBankParallelism (by decide)
      (by simp [candidates]), isSome_effectiveBankParallelism_iff]
  · intro unit
    rw [Report.mem_derived_dramLatency h]
    refine ⟨isSome_dramLatency_iff _ _, ?_⟩
    intro packet hpacket
    rw [Report.mem_derived_packetLatency h unit hpacket, isSome_absentPacketLatency_iff]
  · rw [Report.mem_derived_single h report.counters.bandwidth (by decide)
      (by simp [candidates]), isSome_bandwidth_iff]
  · rw [Report.mem_derived_single h report.counters.bandwidthUtilization (by decide)
      (by simp [candidates]), isSome_bandwidthUtilization_iff,
      Report.mem_derived_single h report.counters.bandwidth (by decide) (by simp [candidates])]
  · rw [Report.mem_derived_single h report.counters.mpki (by decide)
      (by simp [candidates]), isSome_mpki_iff]
  · intro name hname
    by_cases hspeedup : name = "weighted_speedup"
    · exact Or.inl hspeedup
    · right
      rw [ExtTreeMap.mem_iff_isSome_getElem?, Report.derived_of_read h hspeedup,
        ← ExtTreeMap.mem_iff_isSome_getElem?] at hname
      exact mem_derivedNames_of_mem_derived hname

/-- A file of one core without cycles and with one of the two packet latencies. -/
def idleCoreFile : Bytes :=
  ["ramulator.record_insts_core_0 100",
    "ramulator.record_cycs_core_0 0",
    "ramulator.incoming_requests_per_channel 10",
    "ramulator.read_latency_ns_avg 60",
    "ramulator.queueing_latency_ns_avg 20",
    "ramulator.request_packet_latency_ns_avg 5"].flatMap fun line => Bytes.ofText (line ++ "\n")

theorem derived_metrics_exact_idle_core :
    Report.read idleCoreFile none = .ok (.ofBytes idleCoreFile) ∧
      "max_cpu_cycles" ∈ (Report.ofBytes idleCoreFile).derived ∧
      "ipc" ∉ (Report.ofBytes idleCoreFile).derived ∧
      "MPKI" ∈ (Report.ofBytes idleCoreFile).derived ∧
      "response_packet_latency_ns_avg" ∈ (Report.ofBytes idleCoreFile).derived ∧
      "request_packet_latency_ns_avg" ∉ (Report.ofBytes idleCoreFile).derived := by
  have hread : Report.read idleCoreFile none = .ok (.ofBytes idleCoreFile) := rfl
  obtain ⟨hcycles, hipc, -, -, -, hlatency, -, -, hmpki, -⟩ := derived_metrics_exact hread
  obtain ⟨hmemory, hpacket⟩ := hlatency .nanoseconds
  let counters := (Report.ofBytes idleCoreFile).counters
  have htables : counters.entries? "cpu_cycles" 0 = some [([0], 0)] ∧
      counters.entries? "cpu_insts" 0 = some [([0], 100)] ∧
      "incoming_requests" ∈ counters.memory ∧ "read_latency_ns_avg" ∈ counters.memory ∧
      "queueing_latency_ns_avg" ∈ counters.memory ∧
      "request_packet_latency_ns_avg" ∈ counters.memory ∧
      "response_packet_latency_ns_avg" ∉ counters.memory := by
    decide +kernel
  obtain ⟨hcpu, hinsts, hincoming, hreadLatency, hqueueing, hrequest, hresponse⟩ := htables
  refine ⟨hread, ?_, ?_, ?_, ?_, ?_⟩
  · rw [hcycles, hcpu]
    rfl
  · rw [hipc]
    rintro ⟨insts, cycles, -, hcore, -, hnonzero⟩
    cases hcpu.symm.trans hcore
    exact absurd (hnonzero ([0], 0) (by simp)) (by decide)
  · exact hmpki.mpr ⟨hincoming, _, _, hinsts, by decide⟩
  · exact (hpacket "response_packet" (by simp)).mpr
      ⟨hmemory.mpr ⟨hreadLatency, hqueueing⟩, hresponse⟩
  · intro hmem
    exact ((hpacket "request_packet" (by simp)).mp hmem).2 hrequest

end DramSweep
