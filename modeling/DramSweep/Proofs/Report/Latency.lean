import DramSweep.Proofs.Report.DerivedMetrics
import DramSweep.Proofs.Report.ScalarTables

/-!
The latencies of a report. Read and queueing latency are what the file says. A report that has both
also has a memory latency, and a value for each kind of packet: the one in its file, which the
memory latency is less by, or else zero.
-/

namespace DramSweep

open Std (ExtTreeMap)

namespace Counters

/-- The latencies that a file need not have. -/
def packetKinds : List String :=
  ["request_packet", "response_packet"]

theorem mem_packetKinds {packet : String} (h : packet ∈ packetKinds) :
    packet = "request_packet" ∨ packet = "response_packet" := by
  simpa [packetKinds] using h

/-- The latency of a kind of packet that is in the file. -/
def packetLatency? (counters : Counters) (unit : TimeUnit) (packet : String) : Option Float :=
  counters.memory[latencyName packet unit]?

/-- The memory latency is what is left of the read latency. -/
theorem dramLatency_eq_some {counters : Counters} {unit : TimeUnit} {read queueing : Float}
    (hread : counters.memory[latencyName "read" unit]? = some read)
    (hqueueing : counters.memory[latencyName "queueing" unit]? = some queueing) :
    counters.dramLatency unit = some
      ((packetKinds.filterMap (counters.packetLatency? unit)).foldl (· - ·)
        (read - queueing)) := by
  unfold dramLatency packetKinds packetLatency?
  rw [hread, hqueueing]
  cases hrequest : counters.memory[latencyName "request_packet" unit]? <;>
    cases hresponse : counters.memory[latencyName "response_packet" unit]? <;>
      simp [hrequest, hresponse]

/-- No file has a memory latency of its own. -/
theorem dramLatency_not_mem_memory (bytes : Bytes) (unit : TimeUnit) :
    latencyName "DRAM" unit ∉ (ofBytes bytes).memory := by
  have hunlisted : ∀ entry ∈ Catalog.scalars, entry.2 ≠ latencyName "DRAM" unit := by
    cases unit <;> decide
  intro hmem
  rw [ofBytes_eq_ofPairs] at hmem
  obtain ⟨rawName, hscalar, -⟩ := exists_rawName_of_scalar true hmem
  exact hunlisted _ hscalar rfl

end Counters

namespace Report

open Counters

variable {bytes : Bytes} {references : Option (List Report)} {report : Report}
  (h : read bytes references = .ok report) (unit : TimeUnit)
include h

/-- Read and queueing latency are never derived. -/
theorem get?_fileLatency_of_read {kind : String} (hkind : kind = "read" ∨ kind = "queueing") :
    report.get? (latencyName kind unit) =
      ((ofBytes bytes).counters.memory[latencyName kind unit]?).map .single := by
  have hunderived : latencyName kind unit ∉ derivedNames := by
    rcases hkind with rfl | rfl <;> cases unit <;> decide
  have hname : latencyName kind unit ≠ "weighted_speedup" := by
    rcases hkind with rfl | rfl <;> cases unit <;> decide
  have habsent : report.derived[latencyName kind unit]? = none := by
    rw [derived_of_read h hname, ← Option.not_isSome_iff_eq_none,
      ← ExtTreeMap.mem_iff_isSome_getElem?]
    exact fun hmem => hunderived (mem_derivedNames_of_mem_derived hmem)
  rw [get?, habsent, counters_of_read h]
  rfl

theorem get?_dramLatency_of_read : report.get? (latencyName "DRAM" unit) =
    ((ofBytes bytes).counters.dramLatency unit).map .single := by
  have hderived : report.derived[latencyName "DRAM" unit]? =
      (report.counters.dramLatency unit).map .single :=
    getElem?_derived_of_read h (by cases unit <;> decide)
      (by cases unit <;> simp [candidates])
  have habsent : report.counters.memory[latencyName "DRAM" unit]? = none := by
    rw [counters_of_read h, ← Option.not_isSome_iff_eq_none,
      ← ExtTreeMap.mem_iff_isSome_getElem?]
    exact dramLatency_not_mem_memory bytes unit
  rw [get?, hderived, habsent, counters_of_read h, Option.map_none, Option.or_none]
  rfl

/-- Next to a memory latency stands each packet latency, zero where the file has none. -/
theorem get?_packetLatency_of_read
    (hlatency : ((ofBytes bytes).counters.dramLatency unit).isSome) {packet : String}
    (hpacket : packet ∈ packetKinds) :
    report.get? (latencyName packet unit) =
      some (.single (((ofBytes bytes).counters.packetLatency? unit packet).getD 0)) := by
  have hderived : report.derived[latencyName packet unit]? =
      (report.counters.absentPacketLatency packet unit).map .single := by
    rcases mem_packetKinds hpacket with rfl | rfl
    · exact getElem?_derived_of_read h (by cases unit <;> decide)
        (by cases unit <;> simp [candidates])
    · exact getElem?_derived_of_read h (by cases unit <;> decide)
        (by cases unit <;> simp [candidates])
  rw [get?, hderived, counters_of_read h]
  change ((((ofBytes bytes).counters.absentPacketLatency packet unit).map Quantity.single).or
    (((ofBytes bytes).counters.memory[latencyName packet unit]?).map .single)) = _
  unfold absentPacketLatency packetLatency?
  rw [hlatency, ExtTreeMap.contains_eq_isSome_getElem?]
  cases (ofBytes bytes).counters.memory[latencyName packet unit]? <;> rfl

/-- The latencies that are tabulated are there as soon as those they come from are. -/
theorem isSome_latencies_iff_of_read :
    (∀ kind ∈ ["request_packet", "queueing", "DRAM", "response_packet"],
        (report.get? (latencyName kind unit)).isSome) ↔
      (report.get? (latencyName "read" unit)).isSome ∧
        (report.get? (latencyName "queueing" unit)).isSome := by
  have hboth : ((ofBytes bytes).counters.dramLatency unit).isSome ↔
      (report.get? (latencyName "read" unit)).isSome ∧
        (report.get? (latencyName "queueing" unit)).isSome := by
    rw [isSome_dramLatency_iff, get?_fileLatency_of_read h unit (Or.inl rfl),
      get?_fileLatency_of_read h unit (Or.inr rfl), Option.isSome_map, Option.isSome_map,
      ExtTreeMap.mem_iff_isSome_getElem?, ExtTreeMap.mem_iff_isSome_getElem?]
  rw [← hboth]
  constructor
  · intro hall
    have hlatency := hall "DRAM" (by simp)
    rwa [get?_dramLatency_of_read h, Option.isSome_map] at hlatency
  · intro hlatency kind hkind
    have hcases : kind = "queueing" ∨ kind = "DRAM" ∨ kind ∈ packetKinds := by
      revert kind
      decide
    rcases hcases with rfl | rfl | hpacket
    · exact (hboth.mp hlatency).2
    · rwa [get?_dramLatency_of_read h, Option.isSome_map]
    · rw [get?_packetLatency_of_read h unit hlatency hpacket]
      rfl

/-- A report with a read and a queueing latency has the memory latency that is left of them, and
each packet latency. -/
theorem latencies_of_read {read queueing : Float}
    (hread : (report.get? (latencyName "read" unit)).map Quantity.total = some read)
    (hqueueing : (report.get? (latencyName "queueing" unit)).map Quantity.total =
      some queueing) :
    report.get? (latencyName "DRAM" unit) = some (.single
      ((packetKinds.filterMap ((ofBytes bytes).counters.packetLatency? unit)).foldl (· - ·)
        (read - queueing))) ∧
    ∀ packet ∈ packetKinds, report.get? (latencyName packet unit) =
      some (.single (((ofBytes bytes).counters.packetLatency? unit packet).getD 0)) := by
  have htotal : Quantity.total ∘ Quantity.single = id := rfl
  rw [get?_fileLatency_of_read h unit (Or.inl rfl), Option.map_map, htotal, Option.map_id]
    at hread
  rw [get?_fileLatency_of_read h unit (Or.inr rfl), Option.map_map, htotal, Option.map_id]
    at hqueueing
  have hlatency := dramLatency_eq_some hread hqueueing
  constructor
  · rw [get?_dramLatency_of_read h, hlatency]
    rfl
  · intro packet hpacket
    exact get?_packetLatency_of_read h unit (by rw [hlatency]; rfl) hpacket

end Report

end DramSweep
