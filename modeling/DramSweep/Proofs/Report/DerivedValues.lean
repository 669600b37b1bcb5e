import DramSweep.Proofs.Report.Latency
import DramSweep.Proofs.Report.WeightedSpeedup

/-!
The values of the metrics of a report. A rule for each metric says what it is made of and how, from
the tables of the report alone; a report has exactly the metrics and values that the rules give. The
requests being served count at the deepest level alone, and the latencies of a unit are those of the
file in that unit: lines of another level or another unit may come and go.
-/

namespace DramSweep

open Std (ExtTreeMap)

namespace Counters

/-- The counts of requests that are taken relative to all requests, with the names of the rates. -/
def rowRates : List (String × String) :=
  [("row_hits", "row_hit_rate"), ("row_misses", "row_miss_rate"),
    ("row_conflicts", "row_conflict_rate")]

/-- The entries of a family at the greatest length of their indices. -/
structure IsDeepest (counters : Counters) (family : String) (depth : Nat)
    (entries : List IndexedEntry) : Prop where
  held : counters.entries? family depth = some entries
  deepest : ∀ other, (counters.entries? family other).isSome → other ≤ depth

/-- What the tables make of a metric. -/
inductive Defines (counters : Counters) : String → Quantity → Prop
  | maxCpuCycles {first : Float} {rest : List Float}
      (cycles : counters.values? "cpu_cycles" 0 = some (first :: rest)) :
      Defines counters "max_cpu_cycles" (.single (rest.foldl Number.larger first))
  | ipc {insts cycles : List Float} (insts_eq : counters.values? "cpu_insts" 0 = some insts)
      (cycles_eq : counters.values? "cpu_cycles" 0 = some cycles)
      (length : insts.length = cycles.length) (nonzero : ∀ c ∈ cycles, c != 0) :
      Defines counters "ipc" (.perCore (List.zipWith (· / ·) insts cycles))
  | rowRate {count rate : String} {n requests : Float} (rate_mem : (count, rate) ∈ rowRates)
      (count_eq : counters.memory[count]? = some n)
      (requests_eq : counters.memory["incoming_requests"]? = some requests)
      (nonzero : requests != 0) : Defines counters rate (.single (n / requests))
  | bankParallelism {depth : Nat} {entries : List IndexedEntry} {first : Float} {rest : List Float}
      (serving : counters.IsDeepest "total_serving_requests" depth entries)
      (cycles : counters.values? "cpu_cycles" 0 = some (first :: rest))
      (nonzero : rest.foldl Number.larger first * entries.length.toFloat != 0) :
      Defines counters "BLP" (.single (Number.sum (entries.map Prod.snd) /
        (rest.foldl Number.larger first * entries.length.toFloat)))
  | effectiveBankParallelism {depth : Nat} {entries : List IndexedEntry} {active : Float}
      (serving : counters.IsDeepest "total_serving_requests" depth entries)
      (active_eq : counters.memory["DRAM_active_cycles"]? = some active)
      (nonzero : active != 0) :
      Defines counters "effective_BLP" (.single (Number.sum (entries.map Prod.snd) / active))
  | dramLatency {unit : TimeUnit} {read queueing : Float}
      (read_eq : counters.memory[latencyName "read" unit]? = some read)
      (queueing_eq : counters.memory[latencyName "queueing" unit]? = some queueing) :
      Defines counters (latencyName "DRAM" unit) (.single
        ((packetKinds.filterMap (counters.packetLatency? unit)).foldl (· - ·) (read - queueing)))
  | absentPacketLatency {unit : TimeUnit} {packet : String} (packet_mem : packet ∈ packetKinds)
      (read_mem : latencyName "read" unit ∈ counters.memory)
      (queueing_mem : latencyName "queueing" unit ∈ counters.memory)
      (absent : latencyName packet unit ∉ counters.memory) :
      Defines counters (latencyName packet unit) (.single 0)
  | bandwidth {write read : Float} (write_eq : counters.memory["write_bandwidth"]? = some write)
      (read_eq : counters.memory["read_bandwidth"]? = some read) :
      Defines counters "bandwidth" (.single (write + read))
  | bandwidthUtilization {write read maximum : Float}
      (write_eq : counters.memory["write_bandwidth"]? = some write)
      (read_eq : counters.memory["read_bandwidth"]? = some read)
      (maximum_eq : (counters.memory["maximum_internal_bandwidth"]?).or
        counters.memory["maximum_bandwidth"]? = some maximum)
      (nonzero : maximum != 0) :
      Defines counters "bandwidth_utilization" (.single ((write + read) / maximum))
  | mpki {requests first : Float} {rest : List Float}
      (requests_eq : counters.memory["incoming_requests"]? = some requests)
      (insts : counters.values? "cpu_insts" 0 = some (first :: rest)) (nonzero : first != 0) :
      Defines counters "MPKI" (.single (requests * 1000 / first))

section Values

variable {counters : Counters} {value : Float}

theorem ratio_eq_some_iff_exists {num? den? : Option Float} : ratio num? den? = some value ↔
    ∃ num den, num? = some num ∧ den? = some den ∧ den != 0 ∧ num / den = value := by
  cases num? with
  | none => simp [ratio]
  | some num =>
      cases den? with
      | none => simp [ratio]
      | some den => simp [ratio_eq_some_iff]

theorem maxCpuCycles_eq_some_iff : counters.maxCpuCycles = some value ↔ ∃ first rest,
    counters.values? "cpu_cycles" 0 = some (first :: rest) ∧
      rest.foldl Number.larger first = value := by
  unfold maxCpuCycles
  rcases counters.values? "cpu_cycles" 0 with _ | _ | ⟨first, rest⟩ <;> simp

theorem ipc_eq_some_iff {values : List Float} : counters.ipc = some values ↔ ∃ insts cycles,
    counters.values? "cpu_insts" 0 = some insts ∧ counters.values? "cpu_cycles" 0 = some cycles ∧
      insts.length = cycles.length ∧ (∀ c ∈ cycles, c != 0) ∧
      List.zipWith (· / ·) insts cycles = values := by
  unfold ipc
  cases counters.values? "cpu_insts" 0 with
  | none => simp
  | some insts =>
      cases counters.values? "cpu_cycles" 0 with
      | none => simp
      | some cycles =>
          by_cases hlength : insts.length = cycles.length
          · simp [hlength, mapM_ratio_eq_some_iff _ _ _ hlength.symm]
          · simp [hlength]

theorem isDeepest_iff {family : String} {depth : Nat} {entries : List IndexedEntry} :
    counters.IsDeepest family depth entries ↔
      counters.depth? family = some depth ∧ counters.entries? family depth = some entries := by
  rw [depth?_eq_some_iff]
  constructor
  · exact fun h => ⟨⟨by rw [h.held]; rfl, h.deepest⟩, h.held⟩
  · exact fun h => ⟨h.2, h.1.2⟩

/-- The deepest dimension is the last one in order. -/
theorem depth?_eq_getLast?_keys (counters : Counters) (family : String) :
    counters.depth? family = (counters.indexed[family]?).bind (·.keys.getLast?) := by
  unfold depth?
  congr 1
  funext dimensions
  exact ExtTreeMap.maxKey?_eq_getLast?_keys

theorem servingRequests_eq_some_iff {values : List Float} :
    counters.servingRequests = some values ↔ ∃ depth entries,
      counters.IsDeepest "total_serving_requests" depth entries ∧
        entries.map Prod.snd = values := by
  unfold servingRequests deepest?
  simp only [Option.bind_eq_some_iff, values?, Option.map_eq_some_iff, isDeepest_iff]
  constructor
  · rintro ⟨depth, hdepth, entries, hheld, rfl⟩
    exact ⟨depth, entries, ⟨hdepth, hheld⟩, rfl⟩
  · rintro ⟨depth, entries, ⟨hdepth, hheld⟩, rfl⟩
    exact ⟨depth, hdepth, entries, hheld, rfl⟩

theorem bankParallelism_eq_some_iff : counters.bankParallelism = some value ↔
    ∃ serving cycles, counters.servingRequests = some serving ∧
      counters.maxCpuCycles = some cycles ∧ cycles * serving.length.toFloat != 0 ∧
      Number.sum serving / (cycles * serving.length.toFloat) = value := by
  unfold bankParallelism
  simp only [Option.bind_eq_some_iff, ratio_eq_some_iff_exists, Option.some.injEq,
    Option.map_eq_some_iff]
  constructor
  · rintro ⟨serving, hserving, _, _, rfl, ⟨cycles, hcycles, rfl⟩, hnonzero, rfl⟩
    exact ⟨serving, cycles, hserving, hcycles, hnonzero, rfl⟩
  · rintro ⟨serving, cycles, hserving, hcycles, hnonzero, rfl⟩
    exact ⟨serving, hserving, _, _, rfl, ⟨cycles, hcycles, rfl⟩, hnonzero, rfl⟩

theorem effectiveBankParallelism_eq_some_iff : counters.effectiveBankParallelism = some value ↔
    ∃ serving active, counters.servingRequests = some serving ∧
      counters.memory["DRAM_active_cycles"]? = some active ∧ active != 0 ∧
      Number.sum serving / active = value := by
  unfold effectiveBankParallelism
  simp only [Option.bind_eq_some_iff, ratio_eq_some_iff_exists, Option.some.injEq]
  constructor
  · rintro ⟨serving, hserving, _, active, rfl, hactive, hnonzero, rfl⟩
    exact ⟨serving, active, hserving, hactive, hnonzero, rfl⟩
  · rintro ⟨serving, active, hserving, hactive, hnonzero, rfl⟩
    exact ⟨serving, hserving, _, active, rfl, hactive, hnonzero, rfl⟩

theorem dramLatency_eq_some_iff {unit : TimeUnit} : counters.dramLatency unit = some value ↔
    ∃ read queueing, counters.memory[latencyName "read" unit]? = some read ∧
      counters.memory[latencyName "queueing" unit]? = some queueing ∧
      (packetKinds.filterMap (counters.packetLatency? unit)).foldl (· - ·) (read - queueing) =
        value := by
  constructor
  · intro h
    obtain ⟨hread, hqueueing⟩ :=
      (isSome_dramLatency_iff counters unit).mp (Option.isSome_of_eq_some h)
    obtain ⟨read, hread⟩ := Option.isSome_iff_exists.mp
      (ExtTreeMap.mem_iff_isSome_getElem?.mp hread)
    obtain ⟨queueing, hqueueing⟩ := Option.isSome_iff_exists.mp
      (ExtTreeMap.mem_iff_isSome_getElem?.mp hqueueing)
    exact ⟨read, queueing, hread, hqueueing,
      Option.some.inj ((dramLatency_eq_some hread hqueueing).symm.trans h)⟩
  · rintro ⟨read, queueing, hread, hqueueing, rfl⟩
    exact dramLatency_eq_some hread hqueueing

theorem absentPacketLatency_eq_some_iff {unit : TimeUnit} {packet : String} :
    counters.absentPacketLatency packet unit = some value ↔
      latencyName "read" unit ∈ counters.memory ∧ latencyName "queueing" unit ∈ counters.memory ∧
        latencyName packet unit ∉ counters.memory ∧ 0 = value := by
  have hpresent := isSome_absentPacketLatency_iff counters packet unit
  rw [isSome_dramLatency_iff, and_assoc] at hpresent
  constructor
  · intro h
    obtain ⟨hread, hqueueing, habsent⟩ := hpresent.mp (Option.isSome_of_eq_some h)
    refine ⟨hread, hqueueing, habsent, ?_⟩
    unfold absentPacketLatency at h
    split at h
    · exact Option.some.inj h
    · cases h
  · rintro ⟨hread, hqueueing, habsent, rfl⟩
    obtain ⟨found, hfound⟩ := Option.isSome_iff_exists.mp
      (hpresent.mpr ⟨hread, hqueueing, habsent⟩)
    unfold absentPacketLatency at hfound ⊢
    split
    next => rfl
    next hnone => rw [if_neg hnone] at hfound; cases hfound

theorem bandwidth_eq_some_iff : counters.bandwidth = some value ↔ ∃ write read,
    counters.memory["write_bandwidth"]? = some write ∧
      counters.memory["read_bandwidth"]? = some read ∧ write + read = value := by
  simp [bandwidth, Option.bind_eq_some_iff]

end Values

theorem candidate_of_defines {counters : Counters} {name : String} {value : Quantity}
    (h : counters.Defines name value) : (name, some value) ∈ counters.candidates := by
  cases h with
  | maxCpuCycles hcycles =>
      have hvalue := maxCpuCycles_eq_some_iff.mpr ⟨_, _, hcycles, rfl⟩
      simp [candidates, hvalue]
  | ipc hinsts hcycles hlength hnonzero =>
      have hvalue := ipc_eq_some_iff.mpr ⟨_, _, hinsts, hcycles, hlength, hnonzero, rfl⟩
      simp [candidates, hvalue]
  | @rowRate count _ _ _ hrate hcount hrequests hnonzero =>
      have hvalue : counters.requestRate count = _ :=
        ratio_eq_some_iff_exists.mpr ⟨_, _, hcount, hrequests, hnonzero, rfl⟩
      simp only [rowRates, List.mem_cons, Prod.mk.injEq, List.not_mem_nil, or_false] at hrate
      rcases hrate with ⟨rfl, rfl⟩ | ⟨rfl, rfl⟩ | ⟨rfl, rfl⟩ <;> simp [candidates, hvalue]
  | bankParallelism hserving hcycles hnonzero =>
      have hvalue := bankParallelism_eq_some_iff.mpr ⟨_, _,
        servingRequests_eq_some_iff.mpr ⟨_, _, hserving, rfl⟩,
        maxCpuCycles_eq_some_iff.mpr ⟨_, _, hcycles, rfl⟩, by simpa using hnonzero, rfl⟩
      simp [candidates, hvalue]
  | effectiveBankParallelism hserving hactive hnonzero =>
      have hvalue := effectiveBankParallelism_eq_some_iff.mpr ⟨_, _,
        servingRequests_eq_some_iff.mpr ⟨_, _, hserving, rfl⟩, hactive, hnonzero, rfl⟩
      simp [candidates, hvalue]
  | @dramLatency unit _ _ hread hqueueing =>
      have hvalue := dramLatency_eq_some_iff.mpr ⟨_, _, hread, hqueueing, rfl⟩
      cases unit <;> simp [candidates, hvalue]
  | @absentPacketLatency unit packet hpacket hread hqueueing habsent =>
      have hvalue := absentPacketLatency_eq_some_iff.mpr ⟨hread, hqueueing, habsent, rfl⟩
      rcases mem_packetKinds hpacket with rfl | rfl <;> cases unit <;> simp [candidates, hvalue]
  | bandwidth hwrite hread =>
      have hvalue := bandwidth_eq_some_iff.mpr ⟨_, _, hwrite, hread, rfl⟩
      simp [candidates, hvalue]
  | bandwidthUtilization hwrite hread hmaximum hnonzero =>
      have hvalue : counters.bandwidthUtilization = _ := ratio_eq_some_iff_exists.mpr
        ⟨_, _, bandwidth_eq_some_iff.mpr ⟨_, _, hwrite, hread, rfl⟩, hmaximum, hnonzero, rfl⟩
      simp [candidates, hvalue]
  | mpki hrequests hinsts hnonzero =>
      have hvalue : counters.mpki = _ := ratio_eq_some_iff_exists.mpr
        ⟨_, _, by rw [hrequests]; rfl, by rw [hinsts]; rfl, hnonzero, rfl⟩
      simp [candidates, hvalue]

theorem defines_rowRate {counters : Counters} {count rate : String} {value : Float}
    (hrate : (count, rate) ∈ rowRates) (h : counters.requestRate count = some value) :
    counters.Defines rate (.single value) := by
  obtain ⟨n, requests, hcount, hrequests, hnonzero, rfl⟩ := ratio_eq_some_iff_exists.mp h
  exact .rowRate hrate hcount hrequests hnonzero

theorem defines_packetLatency {counters : Counters} {unit : TimeUnit} {packet : String}
    {value : Float} (hpacket : packet ∈ packetKinds)
    (h : counters.absentPacketLatency packet unit = some value) :
    counters.Defines (latencyName packet unit) (.single value) := by
  obtain ⟨hread, hqueueing, habsent, rfl⟩ := absentPacketLatency_eq_some_iff.mp h
  exact .absentPacketLatency hpacket hread hqueueing habsent

theorem defines_of_candidate {counters : Counters} {name : String} {value : Quantity}
    (h : (name, some value) ∈ counters.candidates) : counters.Defines name value := by
  simp only [candidates, List.mem_append, List.mem_cons, List.mem_flatMap, Prod.mk.injEq,
    eq_comm (a := some value), Option.map_eq_some_iff, List.not_mem_nil, or_false] at h
  -- the candidates stand in three groups, of which the middle one has each unit
  rcases h with (hcores | ⟨unit, -, hlatency⟩) | hbandwidth
  · rcases hcores with ⟨rfl, _, h, rfl⟩ | ⟨rfl, _, h, rfl⟩ | ⟨rfl, _, h, rfl⟩ | ⟨rfl, _, h, rfl⟩ |
      ⟨rfl, _, h, rfl⟩ | ⟨rfl, _, h, rfl⟩ | ⟨rfl, _, h, rfl⟩
    · obtain ⟨first, rest, hcycles, rfl⟩ := maxCpuCycles_eq_some_iff.mp h
      exact .maxCpuCycles hcycles
    · obtain ⟨insts, cycles, hinsts, hcycles, hlength, hnonzero, rfl⟩ := ipc_eq_some_iff.mp h
      exact .ipc hinsts hcycles hlength hnonzero
    · exact defines_rowRate (by simp [rowRates]) h
    · exact defines_rowRate (by simp [rowRates]) h
    · exact defines_rowRate (by simp [rowRates]) h
    · obtain ⟨_, _, hserving, hcycles, hnonzero, rfl⟩ := bankParallelism_eq_some_iff.mp h
      obtain ⟨depth, entries, hdeepest, rfl⟩ := servingRequests_eq_some_iff.mp hserving
      obtain ⟨first, rest, hvalues, rfl⟩ := maxCpuCycles_eq_some_iff.mp hcycles
      rw [List.length_map] at hnonzero ⊢
      exact .bankParallelism hdeepest hvalues hnonzero
    · obtain ⟨_, active, hserving, hactive, hnonzero, rfl⟩ :=
        effectiveBankParallelism_eq_some_iff.mp h
      obtain ⟨depth, entries, hdeepest, rfl⟩ := servingRequests_eq_some_iff.mp hserving
      exact .effectiveBankParallelism hdeepest hactive hnonzero
  · rcases hlatency with ⟨rfl, _, h, rfl⟩ | ⟨rfl, _, h, rfl⟩ | ⟨rfl, _, h, rfl⟩
    · exact defines_packetLatency (by simp [packetKinds]) h
    · exact defines_packetLatency (by simp [packetKinds]) h
    · obtain ⟨read, queueing, hread, hqueueing, rfl⟩ := dramLatency_eq_some_iff.mp h
      exact .dramLatency hread hqueueing
  · rcases hbandwidth with ⟨rfl, _, h, rfl⟩ | ⟨rfl, _, h, rfl⟩ | ⟨rfl, _, h, rfl⟩
    · obtain ⟨write, read, hwrite, hread, rfl⟩ := bandwidth_eq_some_iff.mp h
      exact .bandwidth hwrite hread
    · obtain ⟨_, maximum, hboth, hmaximum, hnonzero, rfl⟩ := ratio_eq_some_iff_exists.mp h
      obtain ⟨write, read, hwrite, hread, rfl⟩ := bandwidth_eq_some_iff.mp hboth
      exact .bandwidthUtilization hwrite hread hmaximum hnonzero
    · obtain ⟨_, first, hincoming, hinsts, hnonzero, rfl⟩ := ratio_eq_some_iff_exists.mp h
      obtain ⟨requests, hrequests, rfl⟩ := Option.map_eq_some_iff.mp hincoming
      obtain ⟨values, hvalues, hfirst⟩ := Option.bind_eq_some_iff.mp hinsts
      obtain ⟨rest, rfl⟩ := List.head?_eq_some_iff.mp hfirst
      exact .mpki hrequests hvalues hnonzero

/-- A metric is derived exactly when a rule gives it, and with the value that the rule gives. -/
theorem getElem?_derived_eq_some_iff (counters : Counters) (name : String) (value : Quantity) :
    counters.derived[name]? = some value ↔ counters.Defines name value := by
  constructor
  · intro h
    apply defines_of_candidate
    have hname : name ∈ counters.candidates.map Prod.fst := by
      rw [map_fst_candidates]
      exact mem_derivedNames_of_mem_derived
        (ExtTreeMap.mem_iff_isSome_getElem?.mpr (Option.isSome_of_eq_some h))
    obtain ⟨⟨_, value?⟩, hmem, rfl⟩ := List.mem_map.mp hname
    rwa [← h, getElem?_derived_of_mem hmem]
  · exact fun h => getElem?_derived_of_mem (candidate_of_defines h)

/-- A metric is the same wherever what is derived for it is the same. -/
theorem derived_congr {name : String} {derive : Counters → Option Quantity}
    (hmem : ∀ counters : Counters, (name, derive counters) ∈ counters.candidates)
    {first second : Counters} (h : derive first = derive second) :
    first.derived[name]? = second.derived[name]? := by
  rw [getElem?_derived_of_mem (hmem first), getElem?_derived_of_mem (hmem second), h]

end Counters

namespace Statistic

/-- Whether a statistic counts requests being served at a level above a given one. -/
def isShallow (depth : Nat) : Statistic → Bool
  | .indexed family index _ =>
    family == "total_serving_requests" && decide (index.length - 1 < depth)
  | _ => false

/-- Whether a statistic is a latency of a file in a given unit. -/
def isLatency (unit : Counters.TimeUnit) : Statistic → Bool
  | .memory name _ =>
    ("read" :: "queueing" :: Counters.packetKinds).any (Counters.latencyName · unit == name)
  | _ => false

end Statistic

/-- Two files whose lines give the same statistics in the same order, but for some that are left out
on either side. -/
def AlikeBut (leftOut : Statistic → Bool) (first second : Bytes) : Prop :=
  (first.lines.filterMap Statistic.ofLine?).filter (fun statistic => !leftOut statistic) =
    (second.lines.filterMap Statistic.ofLine?).filter fun statistic => !leftOut statistic

namespace AlikeBut

variable {leftOut : Statistic → Bool} {first second : Bytes} (h : AlikeBut leftOut first second)
include h

/-- What is read off the statistics that are not left out is the same in both files. -/
theorem filterMap_eq {α : Type} {read? : Statistic → Option α}
    (hread : ∀ statistic, leftOut statistic = true → read? statistic = none) :
    (first.lines.filterMap Statistic.ofLine?).filterMap read? =
      (second.lines.filterMap Statistic.ofLine?).filterMap read? := by
  have hkept : ∀ statistics : List Statistic, statistics.filterMap read? =
      (statistics.filter fun statistic => !leftOut statistic).filterMap read? := by
    intro statistics
    rw [List.filterMap_filter]
    refine List.filterMap_congr fun statistic _ => ?_
    cases hout : leftOut statistic with
    | true => simp [hread statistic hout]
    | false => simp
  rw [hkept, h, ← hkept]

theorem entries?_eq {family : String} {dimension : Nat} (hread : ∀ statistic,
      leftOut statistic = true → statistic.entryIn? family dimension = none) :
    (Counters.ofBytes first).entries? family dimension =
      (Counters.ofBytes second).entries? family dimension := by
  unfold Counters.ofBytes Counters.ofLines
  rw [Counters.entries?_ofStatistics, Counters.entries?_ofStatistics, h.filterMap_eq hread]

theorem memory_eq {name : String} (hread : ∀ statistic,
      leftOut statistic = true → statistic.scalarValue? true name = none) :
    (Counters.ofBytes first).memory[name]? = (Counters.ofBytes second).memory[name]? := by
  have hscalars := fun statistics : List Statistic =>
    Counters.scalarsOf_ofStatistics statistics true name
  simp only [Counters.scalarsOf] at hscalars
  unfold Counters.ofBytes Counters.ofLines
  rw [hscalars, hscalars, h.filterMap_eq hread]

omit h in
/-- Files are alike when the lines that they do not share give only what is left out. -/
theorem of_append {own otherOwn shared : List String} (hfirst : first.lines = own ++ shared)
    (hsecond : second.lines = otherOwn ++ shared)
    (hown : ∀ line ∈ own ++ otherOwn, (Statistic.ofLine? line).all leftOut = true) :
    AlikeBut leftOut first second := by
  have hnone : ∀ lines : List String,
      (∀ line ∈ lines, (Statistic.ofLine? line).all leftOut = true) →
        (lines.filterMap Statistic.ofLine?).filter (fun statistic => !leftOut statistic) = [] := by
    intro lines hlines
    rw [List.filter_eq_nil_iff]
    intro statistic hmem
    obtain ⟨line, hline, hgives⟩ := List.mem_filterMap.mp hmem
    have hout := hlines line hline
    rw [hgives, Option.all_some] at hout
    simp [hout]
  unfold AlikeBut
  rw [hfirst, hsecond, List.filterMap_append, List.filterMap_append, List.filter_append,
    List.filter_append, hnone own fun line hline => hown line (List.mem_append_left _ hline),
    hnone otherOwn fun line hline => hown line (List.mem_append_right _ hline)]

end AlikeBut

namespace Counters

section Levels

variable {first second : Bytes} {depth : Nat} {entries : List IndexedEntry}
  (h : AlikeBut (Statistic.isShallow depth) first second)
include h

theorem entries?_of_isShallow {dimension : Nat} (hdimension : depth ≤ dimension) :
    (ofBytes first).entries? "total_serving_requests" dimension =
      (ofBytes second).entries? "total_serving_requests" dimension := by
  refine h.entries?_eq fun statistic hshallow => ?_
  cases statistic with
  | memory | system => rfl
  | indexed family index value =>
      simp only [Statistic.isShallow, Bool.and_eq_true, decide_eq_true_eq] at hshallow
      simp only [Statistic.entryIn?, ite_eq_right_iff]
      omega

theorem maxCpuCycles_of_isShallow :
    (ofBytes first).maxCpuCycles = (ofBytes second).maxCpuCycles := by
  unfold maxCpuCycles values?
  rw [h.entries?_eq fun statistic hshallow => ?_]
  cases statistic with
  | memory | system => rfl
  | indexed family index value =>
      simp only [Statistic.isShallow, Bool.and_eq_true, beq_iff_eq] at hshallow
      simp [Statistic.entryIn?, hshallow.1]

/-- Levels above the deepest one do not count. -/
theorem servingRequests_of_isShallow
    (hdeepest : (ofBytes first).IsDeepest "total_serving_requests" depth entries) :
    (ofBytes second).servingRequests = (ofBytes first).servingRequests := by
  have hsecond : (ofBytes second).IsDeepest "total_serving_requests" depth entries := by
    refine ⟨(entries?_of_isShallow h le_rfl).symm.trans hdeepest.held, fun other hother => ?_⟩
    by_contra hdeeper
    rw [← entries?_of_isShallow h (by omega)] at hother
    exact hdeeper (hdeepest.deepest other hother)
  rw [servingRequests_eq_some_iff.mpr ⟨depth, entries, hsecond, rfl⟩,
    servingRequests_eq_some_iff.mpr ⟨depth, entries, hdeepest, rfl⟩]

theorem derived_of_isShallow
    (hdeepest : (ofBytes first).IsDeepest "total_serving_requests" depth entries) {name : String}
    (hname : name ∈ ["BLP", "effective_BLP"]) :
    (ofBytes second).derived[name]? = (ofBytes first).derived[name]? := by
  have hserving := servingRequests_of_isShallow h hdeepest
  simp only [List.mem_cons, List.not_mem_nil, or_false] at hname
  rcases hname with rfl | rfl
  · have hvalue : (ofBytes second).bankParallelism = (ofBytes first).bankParallelism := by
      unfold bankParallelism
      rw [hserving, maxCpuCycles_of_isShallow h]
    have hmem : ∀ counters : Counters,
        ("BLP", counters.bankParallelism.map .single) ∈ counters.candidates := by
      simp [candidates]
    exact derived_congr hmem (congrArg _ hvalue)
  · have hactive : (ofBytes first).memory["DRAM_active_cycles"]? =
        (ofBytes second).memory["DRAM_active_cycles"]? := by
      refine h.memory_eq fun statistic hshallow => ?_
      cases statistic with
      | memory | system => cases hshallow
      | indexed => rfl
    have hvalue : (ofBytes second).effectiveBankParallelism =
        (ofBytes first).effectiveBankParallelism := by
      unfold effectiveBankParallelism
      rw [hserving, hactive]
    have hmem : ∀ counters : Counters,
        ("effective_BLP", counters.effectiveBankParallelism.map .single) ∈
          counters.candidates := by
      simp [candidates]
    exact derived_congr hmem (congrArg _ hvalue)

end Levels

section Units

/-- No name is that of latencies in both units. -/
theorem latencyName_ne (kind other : String) :
    latencyName kind .cycles ≠ latencyName other .nanoseconds := by
  intro h
  have hlist := congrArg (fun name => name.toList.reverse) h
  simp [latencyName, TimeUnit.infixed] at hlist

variable {first second : Bytes} {unit : TimeUnit}
  (h : AlikeBut (fun statistic => !statistic.isLatency unit) first second)
include h

theorem memory_of_isLatency (kind : String)
    (hkind : kind ∈ "read" :: "queueing" :: packetKinds) :
    (ofBytes first).memory[latencyName kind unit]? =
      (ofBytes second).memory[latencyName kind unit]? := by
  refine h.memory_eq fun statistic hout => ?_
  cases statistic with
  | system | indexed => simp [Statistic.scalarValue?]
  | memory name value =>
      simp only [Statistic.scalarValue?, true_and, ite_eq_right_iff]
      rintro rfl
      have hlatency : Statistic.isLatency unit (.memory (latencyName kind unit) value) = true :=
        List.any_eq_true.mpr ⟨kind, hkind, beq_self_eq_true _⟩
      rw [hlatency] at hout
      cases hout

theorem packetLatency?_of_isLatency {packet : String} (hpacket : packet ∈ packetKinds) :
    (ofBytes first).packetLatency? unit packet = (ofBytes second).packetLatency? unit packet :=
  memory_of_isLatency h packet (List.mem_cons_of_mem _ (List.mem_cons_of_mem _ hpacket))

theorem dramLatency_of_isLatency :
    (ofBytes first).dramLatency unit = (ofBytes second).dramLatency unit := by
  have hpackets : packetKinds.filterMap ((ofBytes first).packetLatency? unit) =
      packetKinds.filterMap ((ofBytes second).packetLatency? unit) :=
    List.filterMap_congr fun packet hpacket => packetLatency?_of_isLatency h hpacket
  apply Option.ext
  intro latency
  rw [dramLatency_eq_some_iff, dramLatency_eq_some_iff, hpackets,
    memory_of_isLatency h "read" (by simp),
    memory_of_isLatency h "queueing" (by simp)]

theorem absentPacketLatency_of_isLatency {packet : String} (hpacket : packet ∈ packetKinds) :
    (ofBytes first).absentPacketLatency packet unit =
      (ofBytes second).absentPacketLatency packet unit := by
  have hfound := packetLatency?_of_isLatency h hpacket
  unfold packetLatency? at hfound
  unfold absentPacketLatency
  rw [dramLatency_of_isLatency h, ExtTreeMap.contains_eq_isSome_getElem?, hfound,
    ← ExtTreeMap.contains_eq_isSome_getElem?]

theorem derived_of_isLatency {kind : String} (hkind : kind ∈ "DRAM" :: packetKinds) :
    (ofBytes second).derived[latencyName kind unit]? =
      (ofBytes first).derived[latencyName kind unit]? := by
  rcases List.mem_cons.mp hkind with rfl | hpacket
  · have hmem : ∀ counters : Counters, (latencyName "DRAM" unit,
        (counters.dramLatency unit).map .single) ∈ counters.candidates := by
      cases unit <;> simp [candidates]
    exact derived_congr hmem (congrArg _ (dramLatency_of_isLatency h).symm)
  · have hmem : ∀ counters : Counters, (latencyName kind unit,
        (counters.absentPacketLatency kind unit).map .single) ∈ counters.candidates := by
      rcases mem_packetKinds hpacket with rfl | rfl <;> cases unit <;> simp [candidates]
    exact derived_congr hmem (congrArg _ (absentPacketLatency_of_isLatency h hpacket).symm)

end Units

end Counters

open Counters in
/-- What the metrics of a report are. Weighted speedup aside, which is made of other reports, a
report has exactly the metrics that the rules give for its tables, with the values of the rules.
Bank-level parallelism is that of the deepest level of the requests being served: another file whose
lines only differ in entries of shallower levels has the same. The latencies of a unit are made of
those of the file in this unit: another file with the same of these has the same latencies, whatever
else it holds; and no name stands for latencies of both units. -/
theorem derived_values_defined {bytes : Bytes} {references : Option (List Report)}
    {report : Report} (h : Report.read bytes references = .ok report) :
    (∀ name, name ≠ "weighted_speedup" → ∀ value,
      report.derived[name]? = some value ↔ report.counters.Defines name value) ∧
    (∀ other otherReferences otherReport,
      Report.read other otherReferences = .ok otherReport →
      (∀ depth entries,
        report.counters.IsDeepest "total_serving_requests" depth entries →
        AlikeBut (Statistic.isShallow depth) bytes other →
        ∀ name ∈ ["BLP", "effective_BLP"], otherReport.derived[name]? = report.derived[name]?) ∧
      ∀ unit, AlikeBut (fun statistic => !statistic.isLatency unit) bytes other →
        ∀ kind ∈ "DRAM" :: packetKinds, otherReport.derived[latencyName kind unit]? =
          report.derived[latencyName kind unit]?) ∧
    ∀ kind other, latencyName kind .cycles ≠ latencyName other .nanoseconds := by
  refine ⟨?_, ?_, latencyName_ne⟩
  · intro name hname value
    rw [Report.derived_of_read h hname, Report.counters_of_read h]
    exact getElem?_derived_eq_some_iff _ _ _
  · intro other otherReferences otherReport hother
    refine ⟨?_, ?_⟩
    · intro depth entries hdeepest halike name hname
      have hspeedup : name ≠ "weighted_speedup" := by
        rintro rfl
        simp at hname
      rw [Report.counters_of_read h] at hdeepest
      rw [Report.derived_of_read hother hspeedup, Report.derived_of_read h hspeedup]
      exact derived_of_isShallow halike hdeepest hname
    · intro unit halike kind hkind
      have hspeedup : latencyName kind unit ≠ "weighted_speedup" := by
        rcases List.mem_cons.mp hkind with rfl | hpacket
        · cases unit <;> decide
        · rcases mem_packetKinds hpacket with rfl | rfl <;> cases unit <;> decide
      rw [Report.derived_of_read hother hspeedup, Report.derived_of_read h hspeedup]
      exact derived_of_isLatency halike hkind

/-- Counts of two banks, with latencies in both units. One packet latency in cycles is missing, and
both in nanoseconds are. -/
def leveledLines : List String :=
  ["ramulator.record_cycs_core_0 100", "ramulator.record_cycs_core_1 200",
    "ramulator.serving_requests_0_0 300", "ramulator.serving_requests_0_1 100",
    "ramulator.read_latency_avg 50", "ramulator.queueing_latency_avg 10",
    "ramulator.request_packet_latency_avg 3", "ramulator.read_latency_ns_avg 9",
    "ramulator.queueing_latency_ns_avg 2"]

/-- The counts behind that of a channel as a whole. -/
def channelLines : List String :=
  ["ramulator.serving_requests_0 7"]

def leveledFile (first : List String) : Bytes :=
  (first ++ leveledLines).flatMap fun line => Bytes.ofText (line ++ "\n")

/-- The requests being served in each of the two banks. -/
def bankEntries : List IndexedEntry :=
  [([0, 0], 300), ([0, 1], 100)]

open Counters in
theorem derived_values_defined_leveled :
    ∃ report plain, Report.read (leveledFile channelLines) none = .ok report ∧
      Report.read (leveledFile []) none = .ok plain ∧
      report.derived["max_cpu_cycles"]? = some (.single 200) ∧
      report.derived["BLP"]? = some (.single ((300 + 100) / (200 * 2))) ∧
      report.derived[latencyName "DRAM" .cycles]? = some (.single (50 - 10 - 3)) ∧
      report.derived[latencyName "response_packet" .cycles]? = some (.single 0) ∧
      report.derived[latencyName "DRAM" .nanoseconds]? = some (.single (9 - 2)) ∧
      plain.derived["BLP"]? = report.derived["BLP"]? := by
  obtain ⟨report, hreport⟩ : ∃ report, report = Report.ofBytes (leveledFile channelLines) :=
    ⟨_, rfl⟩
  have hread : Report.read (leveledFile channelLines) none = .ok report := by
    rw [hreport]
    rfl
  have hplain : Report.read (leveledFile []) none = .ok (.ofBytes (leveledFile [])) := rfl
  have hlines : (leveledFile channelLines).lines = channelLines ++ leveledLines := by
    decide +kernel
  have hplainLines : (leveledFile []).lines = [] ++ leveledLines := by
    decide +kernel
  have halike : AlikeBut (Statistic.isShallow 1) (leveledFile channelLines) (leveledFile []) :=
    .of_append hlines hplainLines (by decide +kernel)
  have htables : (report.counters.indexed["total_serving_requests"]?).bind
        (·.keys.getLast?) = some 1 ∧
      report.counters.entries? "total_serving_requests" 1 = some bankEntries ∧
      report.counters.values? "cpu_cycles" 0 = some [100, 200] ∧
      report.counters.memory[latencyName "read" .cycles]? = some 50 ∧
      report.counters.memory[latencyName "queueing" .cycles]? = some 10 ∧
      packetKinds.filterMap (report.counters.packetLatency? .cycles) = [3] ∧
      latencyName "response_packet" .cycles ∉ report.counters.memory ∧
      report.counters.memory[latencyName "read" .nanoseconds]? = some 9 ∧
      report.counters.memory[latencyName "queueing" .nanoseconds]? = some 2 ∧
      packetKinds.filterMap (report.counters.packetLatency? .nanoseconds) = [] := by
    rw [hreport]
    decide +kernel
  obtain ⟨hdepth, hserving, hcycles, hreadCycles, hqueueingCycles, hpackets, habsent, hreadTime,
    hqueueingTime, hnoPackets⟩ := htables
  have hdeepest : report.counters.IsDeepest "total_serving_requests" 1 bankEntries :=
    isDeepest_iff.mpr ⟨(depth?_eq_getLast?_keys _ _).trans hdepth, hserving⟩
  have hmem : ∀ {name : String} {value : Float}, report.counters.memory[name]? = some value →
      name ∈ report.counters.memory :=
    fun hfound => ExtTreeMap.mem_iff_isSome_getElem?.mpr (Option.isSome_of_eq_some hfound)
  obtain ⟨hvalues, hothers, -⟩ := derived_values_defined hread
  obtain ⟨hlevels, -⟩ := hothers _ _ _ hplain
  refine ⟨report, _, hread, hplain, ?_, ?_, ?_, ?_, ?_,
    hlevels 1 _ hdeepest halike "BLP" (by simp)⟩
  · have hlarger : [200].foldl Number.larger 100 = 200 := by decide
    rw [hvalues _ (by decide), ← hlarger]
    exact .maxCpuCycles hcycles
  · have hvalue : Number.sum (bankEntries.map Prod.snd) /
        ([200].foldl Number.larger 100 * bankEntries.length.toFloat) =
          (300 + 100) / (200 * 2) := by
      decide
    rw [hvalues _ (by decide), ← hvalue]
    exact .bankParallelism hdeepest hcycles (by decide)
  · rw [hvalues _ (by decide)]
    have hlatency := Defines.dramLatency hreadCycles hqueueingCycles
    rw [hpackets] at hlatency
    exact hlatency
  · rw [hvalues _ (by decide)]
    exact .absentPacketLatency (by simp [packetKinds]) (hmem hreadCycles) (hmem hqueueingCycles)
      habsent
  · rw [hvalues _ (by decide)]
    have hlatency := Defines.dramLatency hreadTime hqueueingTime
    rw [hnoPackets] at hlatency
    exact hlatency

end DramSweep
