import StageGate.Project.Document
import StageGate.Proofs.Json.RoundTrip
import StageGate.Proofs.Results
import StageGate.Proofs.Time.Timestamp

/-!
A project is read back from the text of its file: every field as it was, whatever its texts contain and
whatever its stages have seen. The reader looks fields up among sorted ones and the printer keeps the
order of a project, so the lookups are what the two have in common.
-/

set_option autoImplicit false

namespace StageGate

open Json

/-! ### Single values -/

namespace Document

theorem field?_of_some {α : Type} {read : Json → Read α} {v : Json} {x : α} (hx : read v = .ok x)
    {name : String} {fields : List (String × Json)} (hv : Json.field? name fields = some v) :
    field? read name fields = .ok (some x) := by
  simp [field?, hv, hx]

theorem field?_of_none {α : Type} (read : Json → Read α) {name : String}
    {fields : List (String × Json)} (hv : Json.field? name fields = none) :
    field? read name fields = .ok none := by
  simp [field?, hv]

theorem readBelow_natCast {bound n : Nat} (h : n < bound) (wanted : Wanted) :
    readBelow bound wanted (.int n) = .ok n := by
  have hn : (0 : Int) ≤ n ∧ (n : Int) < bound := ⟨Int.natCast_nonneg n, Int.ofNat_lt.2 h⟩
  rw [readBelow, if_pos hn, Int.toNat_natCast]

theorem readText_string (s : String) : readText (.string s) = .ok s := rfl

theorem readByte_toNat (n : UInt8) : readByte (.int n.toNat) = .ok n := by
  rw [readByte, readBelow_natCast n.toNat_lt]
  exact congrArg Except.ok UInt8.ofNat_toNat

theorem readCount_toNat (n : UInt32) : readCount (.int n.toNat) = .ok n := by
  rw [readCount, readBelow_natCast n.toNat_lt]
  exact congrArg Except.ok UInt32.ofNat_toNat

theorem readTimestamp_toJson (t : Instant) : readTimestamp t.toJson = .ok t := by
  simp [Instant.toJson, readTimestamp, Instant.read?_write]

theorem readOptionalTimestamp_toJson (t : Instant) :
    readOptionalTimestamp t.toJson = .ok (some t) := by
  have h : readOptionalTimestamp t.toJson = some <$> readTimestamp t.toJson := rfl
  rw [h, readTimestamp_toJson]
  rfl

theorem readStatus_name (s : Status) : readStatus (.string s.name) = .ok s := by
  simp [readStatus, readWord, knownWord, Status.ofName?_name]

theorem readMode_name (m : Mode) : readMode (.string m.name) = .ok m := by
  simp [readMode, readWord, knownWord, Mode.ofName?_name]

theorem knownStage_name (s : Stage) : knownStage s.name = .ok s := by
  simp [knownStage, Stage.ofName?_name]

theorem readStage_name (s : Stage) : readStage (.string s.name) = .ok s := by
  simp [readStage, readText, knownStage_name, bind, Except.bind]

end Document

open Document

/-! ### Entries -/

namespace Entry

/-- The fields of an entry as they are read: in the order of their keys. -/
def sortedFields (e : Entry) : List (String × Json) :=
  (e.completedAt.toList.map fun t => ("completed_at", t.toJson)) ++
    [("iterations", .int e.rounds.toNat)] ++
    (e.startedAt.toList.map fun t => ("started_at", t.toJson)) ++ [("status", .string e.status.name)]

theorem sorted_toJson (e : Entry) : e.toJson.sorted = .object e.sortedFields := by
  obtain ⟨status, startedAt, completedAt, rounds⟩ := e
  cases startedAt <;> cases completedAt <;>
    simp only [toJson, Option.toList_none, Option.toList_some, List.map_nil, List.map_cons,
      List.cons_append, List.nil_append, Instant.toJson, Json.sorted, Json.sortedFields, Json.ofFields,
      List.foldl_cons, List.foldl_nil, insertField, String.reduceEq, String.reduceLT, if_true, if_false,
      sortedFields]

theorem ofJson_sorted (e : Entry) : Entry.ofJson e.toJson.sorted = .ok e := by
  have hc : field? readOptionalTimestamp "completed_at" e.sortedFields =
      .ok (e.completedAt.map some) := by
    cases h : e.completedAt with
    | none =>
      apply field?_of_none
      cases hs : e.startedAt <;> simp [sortedFields, h, hs, field?_cons]
    | some t =>
      apply field?_of_some (readOptionalTimestamp_toJson t)
      simp [sortedFields, h, field?_cons]
  have hs : field? readOptionalTimestamp "started_at" e.sortedFields =
      .ok (e.startedAt.map some) := by
    cases h : e.startedAt with
    | none =>
      apply field?_of_none
      cases hc : e.completedAt <;> simp [sortedFields, h, hc, field?_cons]
    | some t =>
      apply field?_of_some (readOptionalTimestamp_toJson t)
      cases hc : e.completedAt <;> simp [sortedFields, h, hc, field?_cons]
  have hr : field? readCount "iterations" e.sortedFields = .ok (some e.rounds) := by
    apply field?_of_some (readCount_toNat e.rounds)
    cases hc : e.completedAt <;> simp [sortedFields, hc, field?_cons]
  have ht : field? readStatus "status" e.sortedFields = .ok (some e.status) := by
    apply field?_of_some (readStatus_name e.status)
    cases hc : e.completedAt <;> cases hs : e.startedAt <;> simp [sortedFields, hc, hs, field?_cons]
  simp only [sorted_toJson, Entry.ofJson, Entry.ofFields, hc, hs, hr, ht, bind, Except.bind, require,
    pure, Except.pure]
  obtain ⟨status, startedAt, completedAt, rounds⟩ := e
  cases startedAt <;> cases completedAt <;> rfl

theorem plain_toJson (e : Entry) (d : Nat) : Plain (d + 1) e.toJson := by
  apply Plain.object
  intro f hf
  simp only [List.mem_append, List.mem_singleton, List.mem_map] at hf
  have hr := e.rounds.toNat_lt
  rcases hf with ((rfl | ⟨t, -, rfl⟩) | ⟨t, -, rfl⟩) | rfl
  · exact Plain.string _
  · exact Plain.string _
  · exact Plain.string _
  · exact Plain.int ⟨by omega, by omega⟩

def stagesByName : List Stage := [.clarify, .design, .init, .propose, .specify, .tasks, .validate]

theorem sorted_table (entries : Stage → Entry) :
    (Json.object (Stage.order.map fun s => (s.name, (entries s).toJson))).sorted =
      .object (stagesByName.map fun s => (s.name, (entries s).toJson.sorted)) := by
  simp only [Json.sorted, sortedFields_eq_map, Json.ofFields, Stage.order, stagesByName, Stage.name,
    List.map_cons, List.map_nil, List.foldl_cons, List.foldl_nil, insertField, String.reduceEq,
    String.reduceLT, if_true, if_false]

theorem find?_stagesByName (entries : Stage → Entry) (s : Stage) :
    find? s (stagesByName.map fun t => (t, entries t)) = some (entries s) := by
  cases s <;> simp [find?, stagesByName]

theorem tableOfJson_sorted (entries : Stage → Entry) :
    tableOfJson (Json.object (Stage.order.map fun s => (s.name, (entries s).toJson))).sorted =
      .ok entries := by
  have hm : (stagesByName.map fun s => (s.name, (entries s).toJson.sorted)).mapM
      (fun f => return (← knownStage f.1, ← ofJson f.2) : String × Json → Read (Stage × Entry)) =
      .ok (stagesByName.map fun s => (s, entries s)) := by
    rw [List.mapM_map]
    apply mapM_eq_ok_map
    intro s _
    simp [knownStage_name, ofJson_sorted, bind, Except.bind, pure, Except.pure]
  rw [sorted_table, tableOfJson, tableOfFields, hm]
  simp only [bind, Except.bind, find?_stagesByName, Option.isSome_some, if_true, Option.getD_some]
  rfl

end Entry

/-! ### Projects -/

namespace Project

def sortedFields (p : Project) : List (String × Json) := [
  ("clarity_score", .int p.score.toNat),
  ("created_at", p.createdAt.toJson),
  ("current_stage", .string p.stage.name),
  ("description", .string p.description),
  ("mode", .string p.mode.name),
  ("name", .string p.name),
  ("stage_status", (Json.object (Stage.order.map fun s => (s.name, (p.entries s).toJson))).sorted),
  ("updated_at", p.updatedAt.toJson),
  ("version", .string p.version)]

theorem sorted_toJson (p : Project) : p.toJson.sorted = .object p.sortedFields := by
  simp only [toJson, Json.sorted, Json.sortedFields, Instant.toJson, sortedFields, Json.ofFields,
    List.foldl_cons, List.foldl_nil, insertField, String.reduceEq, String.reduceLT, if_true, if_false]

theorem ofFields_sortedFields (p : Project) : ofFields p.sortedFields = .ok p := by
  have hscore : field? readByte "clarity_score" p.sortedFields = .ok (some p.score) :=
    field?_of_some (readByte_toNat p.score) (by simp [sortedFields, field?_cons])
  have hcreated : field? readTimestamp "created_at" p.sortedFields = .ok (some p.createdAt) :=
    field?_of_some (readTimestamp_toJson p.createdAt) (by simp [sortedFields, field?_cons])
  have hstage : field? readStage "current_stage" p.sortedFields = .ok (some p.stage) :=
    field?_of_some (readStage_name p.stage) (by simp [sortedFields, field?_cons])
  have hdescription : field? readText "description" p.sortedFields = .ok (some p.description) :=
    field?_of_some (readText_string p.description) (by simp [sortedFields, field?_cons])
  have hmode : field? readMode "mode" p.sortedFields = .ok (some p.mode) :=
    field?_of_some (readMode_name p.mode) (by simp [sortedFields, field?_cons])
  have hname : field? readText "name" p.sortedFields = .ok (some p.name) :=
    field?_of_some (readText_string p.name) (by simp [sortedFields, field?_cons])
  have hentries : field? Entry.tableOfJson "stage_status" p.sortedFields = .ok (some p.entries) :=
    field?_of_some (Entry.tableOfJson_sorted p.entries) (by simp [sortedFields, field?_cons])
  have hupdated : field? readTimestamp "updated_at" p.sortedFields = .ok (some p.updatedAt) :=
    field?_of_some (readTimestamp_toJson p.updatedAt) (by simp [sortedFields, field?_cons])
  have hversion : field? readText "version" p.sortedFields = .ok (some p.version) :=
    field?_of_some (readText_string p.version) (by simp [sortedFields, field?_cons])
  simp only [ofFields, hscore, hcreated, hstage, hdescription, hmode, hname, hentries, hupdated,
    hversion, bind, Except.bind, require, pure, Except.pure, Option.getD_some]

theorem checkStage_sorted (p : Project) : checkStage p.toJson.sorted = .ok () := by
  have h : p.toJson.sorted.get? "current_stage" = some (.string p.stage.name) := by
    simp [sorted_toJson, get?, sortedFields, field?_cons]
  simp [checkStage, h, Stage.ofName?_name]

theorem plain_toJson (p : Project) (d : Nat) : Plain (d + 3) p.toJson := by
  have ht : Plain (d + 2) (.object (Stage.order.map fun s => (s.name, (p.entries s).toJson))) := by
    apply Plain.object
    intro f hf
    obtain ⟨s, -, rfl⟩ := List.mem_map.1 hf
    exact (p.entries s).plain_toJson d
  have hs := p.score.toNat_lt
  apply Plain.object
  intro f hf
  simp only [List.mem_cons, List.not_mem_nil, or_false] at hf
  rcases hf with rfl | rfl | rfl | rfl | rfl | rfl | rfl | rfl | rfl
  case inr.inr.inr.inr.inr.inr.inr.inl => exact ht
  case inr.inr.inr.inr.inr.inr.inr.inr => exact Plain.int ⟨by omega, by omega⟩
  all_goals exact Plain.string _

theorem ofText_toText (p : Project) : ofText p.toText = .ok p := by
  have h := parse?_pretty (p.plain_toJson 124)
  have ho : ofJson p.toJson.sorted = .ok p := by
    rw [sorted_toJson, ofJson, ofFields_sortedFields]
  simp only [ofText, toText, h, checkStage_sorted, ho, bind, Except.bind]
  rfl

end Project

end StageGate
