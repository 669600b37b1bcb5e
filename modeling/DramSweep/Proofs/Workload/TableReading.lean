import DramSweep.Proofs.CsvReader
import DramSweep.Proofs.Workload.Availability
import DramSweep.TableGroup

/-!
The tables of a workload read back. Both forms show the same texts: a value for each metric and
configuration, the feature, and the memory load that is also in the feature. They read back as these
texts whatever the names of the workload, the configurations and the metrics hold, one table or
many behind each other.
-/

namespace DramSweep

/-- The texts in the tables of a workload. -/
structure TableContent where
  workload : String
  configurations : List String
  metrics : List String
  /-- The memory load of the reference. -/
  load : String
  /-- What the workload is measured by, with its name in front. -/
  performance : String
  /-- The value of a metric in a configuration. -/
  value : String → String → String

namespace TableContent

def feature (content : TableContent) : String :=
  "MPKI_" ++ content.load ++ content.performance

def label (content : TableContent) : String :=
  content.workload ++ "_" ++ content.feature

/-- One row for each metric, one column for each configuration. -/
def wideRecords (content : TableContent) : List (List String) :=
  (content.label :: content.configurations) ::
    content.metrics.map fun metric => metric :: content.configurations.map (content.value metric)

/-- One row for each metric and configuration. -/
def tidyRecords (content : TableContent) : List (List String) :=
  content.metrics.flatMap fun metric => content.configurations.map fun configuration =>
    [metric, content.value metric configuration, configuration, content.workload, content.feature,
      content.label, content.load]

/-- The names of the columns of a tidy file. -/
def tidyColumns : List String :=
  ["statistics", "value", "DRAM", "workload", "workload_feature", "workload_and_feature",
    "ref_MPKI"]

theorem length_tidyRecords (content : TableContent) :
    content.tidyRecords.length = content.metrics.length * content.configurations.length := by
  simp [tidyRecords, List.length_flatMap]

theorem length_of_mem_tidyRecords {content : TableContent} {fields : List String}
    (h : fields ∈ content.tidyRecords) : fields.length = tidyColumns.length := by
  obtain ⟨metric, -, hrow⟩ := List.mem_flatMap.mp h
  obtain ⟨configuration, -, rfl⟩ := List.mem_map.mp hrow
  rfl

theorem ne_nil_of_mem_wideRecords {content : TableContent} {fields : List String}
    (h : fields ∈ content.wideRecords) : fields ≠ [] := by
  rcases List.mem_cons.mp h with rfl | hrow
  · exact List.cons_ne_nil _ _
  · obtain ⟨metric, -, rfl⟩ := List.mem_map.mp hrow
    exact List.cons_ne_nil _ _

theorem ne_nil_of_mem_tidyRecords {content : TableContent} {fields : List String}
    (h : fields ∈ content.tidyRecords) : fields ≠ [] := by
  have hlength := length_of_mem_tidyRecords h
  rintro rfl
  cases hlength

end TableContent

namespace Workload

variable {workload : Workload} {metrics : List String}

theorem value_eq_ok_iff (metric configuration : String) (total : Float) :
    workload.value metric configuration = .ok total ↔
      ∃ report value, workload.reports[configuration]? = some report ∧
        report.get? metric = some value ∧ value.total = total := by
  unfold value
  cases workload.reports[configuration]? with
  | none => simp
  | some report => cases hvalue : report.get? metric <;> simp [hvalue]

/-- A value as a table shows it. -/
def shown (workload : Workload) (metric configuration : String) : Float :=
  (workload.value metric configuration).toOption.getD 0

theorem eq_shown {metric configuration : String} {total : Float}
    (h : workload.value metric configuration = .ok total) :
    total = workload.shown metric configuration := by
  unfold shown
  rw [h]
  rfl

/-- The values of all metrics, once none is missing. -/
theorem rows_of_allValues {rows : List (String × List Float)}
    (h : workload.allValues metrics = .ok rows) :
    rows = metrics.map fun metric =>
      (metric, workload.configurations.map (workload.shown metric)) := by
  refine Traverse.eq_map_of_mapM_eq_ok h ?_
  intro metric _ row hrow
  obtain ⟨values, hvalues, heq⟩ := Traverse.bind_eq_ok_iff.mp hrow
  cases heq
  rw [Traverse.eq_map_of_mapM_eq_ok hvalues fun _ _ _ hvalue => eq_shown hvalue]

/-- No value is missing from a table that is given. -/
theorem value_of_allValues {rows : List (String × List Float)}
    (h : workload.allValues metrics = .ok rows) {metric configuration : String}
    (hmetric : metric ∈ metrics) (hlisted : configuration ∈ workload.configurations) :
    workload.value metric configuration = .ok (workload.shown metric configuration) := by
  obtain ⟨row, -, hrow⟩ := Traverse.exists_of_mapM_eq_ok h hmetric
  obtain ⟨values, hvalues, -⟩ := Traverse.bind_eq_ok_iff.mp hrow
  obtain ⟨value, -, hvalue⟩ := Traverse.exists_of_mapM_eq_ok hvalues hlisted
  rw [hvalue, eq_shown hvalue]

/-- The texts that the tables of a workload show for some metrics. -/
def tableContent (workload : Workload) (metrics : List String) : TableContent where
  workload := workload.name
  configurations := workload.configurations
  metrics := metrics
  load := cell (workload.load?.getD 0)
  performance := (if workload.isMix then "_weighted-speedup_" else "_ipc_") ++
    cell (workload.measured?.getD 0)
  value metric configuration := cell (workload.shown metric configuration)

theorem reference_mem_of_feature {text : String} (h : workload.feature = .ok text) :
    workload.reference ∈ workload.reports := by
  obtain ⟨report, hreport, -⟩ := Traverse.bind_eq_ok_iff.mp h
  rw [referenceReport_eq_ok_iff] at hreport
  rw [Std.ExtTreeMap.mem_iff_isSome_getElem?, hreport]
  rfl

/-- The feature is that of the content, and the memory load in it is known. -/
theorem feature_of_ok (metrics : List String) {text : String} (h : workload.feature = .ok text) :
    text = (workload.tableContent metrics).feature ∧ ∃ load, workload.load? = some load := by
  rw [feature_eq (reference_mem_of_feature h)] at h
  cases hload : workload.load? with
  | none =>
      rw [hload] at h
      cases h
  | some load =>
      cases hmeasured : workload.measured? with
      | none =>
          rw [hload, hmeasured] at h
          cases h
      | some measured =>
          rw [hload, hmeasured] at h
          cases h
          refine ⟨?_, load, rfl⟩
          simp [tableContent, TableContent.feature, hload, hmeasured, String.append_assoc]

theorem wideRecords_of_ok {records : List (List String)}
    (h : workload.wideRecords metrics = .ok records) :
    records = (workload.tableContent metrics).wideRecords := by
  obtain ⟨feature, hfeature, h⟩ := Traverse.bind_eq_ok_iff.mp h
  obtain ⟨rows, hrows, h⟩ := Traverse.bind_eq_ok_iff.mp h
  cases h
  rw [(feature_of_ok metrics hfeature).1, rows_of_allValues hrows, List.map_map]
  simp [TableContent.wideRecords, TableContent.label, tableContent, label, Function.comp_def]

theorem tidyRecords_of_ok {records : List (List String)}
    (h : workload.tidyRecords metrics = .ok records) :
    records = (workload.tableContent metrics).tidyRecords := by
  obtain ⟨feature, hfeature, h⟩ := Traverse.bind_eq_ok_iff.mp h
  obtain ⟨hcontent, load, hload⟩ := feature_of_ok metrics hfeature
  obtain ⟨known, hknown, h⟩ := Traverse.bind_eq_ok_iff.mp h
  rw [memoryLoad_eq_ok (reference_mem_of_feature hfeature), hload] at hknown
  cases hknown
  obtain ⟨rows, hrows, h⟩ := Traverse.bind_eq_ok_iff.mp h
  cases h
  rw [rows_of_allValues hrows, List.flatMap_map]
  unfold TableContent.tidyRecords
  congr 1
  funext metric
  -- Each configuration stands beside its own value.
  have hpaired : workload.configurations.zip
      (workload.configurations.map (workload.shown metric)) =
      workload.configurations.map fun configuration =>
        (configuration, workload.shown metric configuration) := by
    rw [List.zip_map_right, List.zip_eq_zipWith, List.zipWith_self, List.map_map]
    rfl
  dsimp only
  rw [hpaired, List.map_map, hcontent]
  simp [TableContent.label, tableContent, label, hload, Function.comp_def]

theorem wide_of_ok {text : String} (h : workload.wide metrics = .ok text) :
    text = Csv.records (workload.tableContent metrics).wideRecords := by
  obtain ⟨records, hrecords, rfl⟩ := Traverse.map_eq_ok_iff.mp h
  rw [wideRecords_of_ok hrecords]

theorem tidy_of_ok {text : String} (h : workload.tidy metrics = .ok text) :
    text = Csv.records (workload.tableContent metrics).tidyRecords := by
  obtain ⟨records, hrecords, rfl⟩ := Traverse.map_eq_ok_iff.mp h
  rw [tidyRecords_of_ok hrecords]

end Workload

namespace TableContent

/-- The texts are those of a workload for the metrics that were asked for, its numbers to four
places. -/
structure Describes (content : TableContent) (subject : Workload) (asked : List String) :
    Prop where
  workload : content.workload = subject.name
  configurations : content.configurations = subject.configurations
  metrics : content.metrics = asked
  feature : subject.feature = .ok content.feature
  load : ∃ load, subject.load? = some load ∧ content.load = Number.fixed 4 load
  value : ∀ metric ∈ asked, ∀ configuration ∈ subject.configurations,
    ∃ report value, subject.reports[configuration]? = some report ∧
      report.get? metric = some value ∧
      content.value metric configuration = Number.fixed 4 value.total

theorem describes_of_wide {workload : Workload} {metrics : List String} {text : String}
    (h : workload.wide metrics = .ok text) :
    (workload.tableContent metrics).Describes workload metrics := by
  obtain ⟨records, hrecords, -⟩ := Traverse.map_eq_ok_iff.mp h
  obtain ⟨feature, hfeature, hrecords⟩ := Traverse.bind_eq_ok_iff.mp hrecords
  obtain ⟨rows, hrows, -⟩ := Traverse.bind_eq_ok_iff.mp hrecords
  obtain ⟨hcontent, load, hload⟩ := Workload.feature_of_ok metrics hfeature
  refine ⟨rfl, rfl, rfl, hcontent ▸ hfeature, ⟨load, hload, ?_⟩, ?_⟩
  · simp [Workload.tableContent, Workload.cell, hload]
  · intro metric hmetric configuration hlisted
    obtain ⟨report, value, hreport, hvalue, htotal⟩ :=
      (Workload.value_eq_ok_iff _ _ _).mp (Workload.value_of_allValues hrows hmetric hlisted)
    exact ⟨report, value, hreport, hvalue, by rw [htotal]; rfl⟩

end TableContent

/-- Tables that are given read back as their texts: the wide form as a header and a row for each
metric, the tidy form as a row of seven fields for each metric and configuration, metric by metric.
Both show one text for each metric and configuration, the header of the wide form is the sixth field
of the tidy rows, and their last field is the memory load in the feature. The same holds of all
tables behind each other, below the header of a tidy file. -/
theorem tables_read_back {requests : List (Workload × List String)} {wides tidies : List String}
    (hwide : requests.mapM (fun (workload, metrics) => workload.wide metrics) = .ok wides)
    (htidy : requests.mapM (fun (workload, metrics) => workload.tidy metrics) = .ok tidies) :
    let contents := requests.map fun (workload, metrics) => workload.tableContent metrics
    (∀ workload metrics, (workload, metrics) ∈ requests →
      (workload.tableContent metrics).Describes workload metrics) ∧
    wides.map Csv.read = contents.map (some ·.wideRecords) ∧
    tidies.map Csv.read = contents.map (some ·.tidyRecords) ∧
    (∀ content ∈ contents,
      content.tidyRecords.length = content.metrics.length * content.configurations.length ∧
      ∀ fields ∈ content.tidyRecords, fields.length = 7) ∧
    Csv.read (String.join wides) = some (contents.flatMap TableContent.wideRecords) ∧
    Csv.read (TableGroup.tidyHeader ++ String.join tidies) =
      some (TableContent.tidyColumns :: contents.flatMap TableContent.tidyRecords) := by
  intro contents
  have hwides : wides = contents.map (Csv.records ·.wideRecords) := by
    rw [List.map_map]
    exact Traverse.eq_map_of_mapM_eq_ok hwide fun _ _ _ h => Workload.wide_of_ok h
  have htidies : tidies = contents.map (Csv.records ·.tidyRecords) := by
    rw [List.map_map]
    exact Traverse.eq_map_of_mapM_eq_ok htidy fun _ _ _ h => Workload.tidy_of_ok h
  have hreadWide : ∀ content : TableContent,
      Csv.read (Csv.records content.wideRecords) = some content.wideRecords :=
    fun _ => Csv.read_records fun _ => TableContent.ne_nil_of_mem_wideRecords
  have hreadTidy : ∀ content : TableContent,
      Csv.read (Csv.records content.tidyRecords) = some content.tidyRecords :=
    fun _ => Csv.read_records fun _ => TableContent.ne_nil_of_mem_tidyRecords
  refine ⟨?_, ?_, ?_, ?_, ?_, ?_⟩
  · intro workload metrics hrequest
    obtain ⟨text, -, htext⟩ := Traverse.exists_of_mapM_eq_ok hwide hrequest
    exact TableContent.describes_of_wide htext
  · simp [hwides, hreadWide, Function.comp_def]
  · simp [htidies, hreadTidy, Function.comp_def]
  · intro content _
    exact ⟨content.length_tidyRecords, fun _ => TableContent.length_of_mem_tidyRecords⟩
  · rw [hwides, Csv.join_map_records]
    refine Csv.read_records ?_
    intro fields hfields
    obtain ⟨content, -, hrow⟩ := List.mem_flatMap.mp hfields
    exact TableContent.ne_nil_of_mem_wideRecords hrow
  · -- The header of a tidy file is itself a written record.
    have hheader : TableGroup.tidyHeader = Csv.records [TableContent.tidyColumns] := by decide
    rw [hheader, htidies, Csv.join_map_records, ← Csv.records_append]
    refine Csv.read_records ?_
    intro fields hfields
    rcases List.mem_cons.mp hfields with rfl | hrow
    · exact List.cons_ne_nil _ _
    · obtain ⟨content, -, hrow⟩ := List.mem_flatMap.mp hrow
      exact TableContent.ne_nil_of_mem_tidyRecords hrow

/-- A workload whose name and configurations hold separators, quotes and line breaks. -/
def awkwardWorkload : Workload :=
  let report := (Report.empty.setMetric "MPKI" (.single 12.5)).setMetric "ipc" (.perCore [1, 0.5])
  Workload.ofReports "a,\"b\"" ["DDR\r\n4", "", "D"] "D" none
    (.ofList [("DDR\r\n4", report), ("", report), ("D", report)])

theorem tables_read_back_awkward_names :
    ∃ wide tidy, awkwardWorkload.wide ["ipc"] = .ok wide ∧
      awkwardWorkload.tidy ["ipc"] = .ok tidy ∧
      Csv.read (wide ++ wide) =
        some [["a,\"b\"_MPKI_12.5000_ipc_1.5000", "DDR\r\n4", "", "D"],
          ["ipc", "1.5000", "1.5000", "1.5000"],
          ["a,\"b\"_MPKI_12.5000_ipc_1.5000", "DDR\r\n4", "", "D"],
          ["ipc", "1.5000", "1.5000", "1.5000"]] := by
  have hwide : (awkwardWorkload.wide ["ipc"]).toOption.isSome := by decide +kernel
  have htidy : (awkwardWorkload.tidy ["ipc"]).toOption.isSome := by decide +kernel
  obtain ⟨wide, hwide⟩ := Option.isSome_iff_exists.mp hwide
  obtain ⟨tidy, htidy⟩ := Option.isSome_iff_exists.mp htidy
  rw [Traverse.toOption_eq_some_iff] at hwide htidy
  let requests := [(awkwardWorkload, ["ipc"]), (awkwardWorkload, ["ipc"])]
  have hwides : requests.mapM (fun (workload, metrics) => workload.wide metrics) =
      .ok [wide, wide] := by
    rw [Traverse.mapM_eq_ok_iff]
    simp [requests, hwide]
  have htidies : requests.mapM (fun (workload, metrics) => workload.tidy metrics) =
      .ok [tidy, tidy] := by
    rw [Traverse.mapM_eq_ok_iff]
    simp [requests, htidy]
  obtain ⟨-, -, -, -, hjoined, -⟩ := tables_read_back hwides htidies
  refine ⟨wide, tidy, hwide, htidy, ?_⟩
  have htexts : String.join [wide, wide] = wide ++ wide := by simp [String.join_cons]
  rw [← htexts, hjoined]
  decide +kernel

end DramSweep
