import Mathlib.Algebra.Ring.Nat
import StageGate.Project.Document
import StageGate.Proofs.Json.Written
import StageGate.Proofs.Results

/-!
What is read from a project file: a project is read from a text exactly if the text tells it, field by
field, with nothing made up for what is missing or of another form but a number zero and a time that is
not set. The fields are those of the text as it was written, so the last of several with one key counts
and a number is one that is written without fraction and exponent.
-/

set_option autoImplicit false

namespace StageGate

open Json (Written inOrder)
open Json.Written (last? fieldValues)

/-! ### Single values -/

namespace Document

variable {α : Type} {w : Written}

theorem readText_eq_ok {s : String} : readText w.value = .ok s ↔ w = .string s := by
  rw [← Written.value_eq_string_iff]
  cases w.value <;> simp [readText]

theorem readTimestamp_eq_ok {t : Instant} :
    readTimestamp w.value = .ok t ↔ ∃ s, w = .string s ∧ Instant.read? s = some t := by
  simp only [← Written.value_eq_string_iff]
  cases w.value with
  | string s => cases h : Instant.read? s <;> simp [readTimestamp, h]
  | _ => simp [readTimestamp]

theorem readOptionalTimestamp_eq_ok {t : Option Instant} : readOptionalTimestamp w.value = .ok t ↔
    (w = .null ∧ t = none) ∨ ∃ s u, w = .string s ∧ Instant.read? s = some u ∧ t = some u := by
  by_cases h : w = .null
  · subst h
    simp [Written.value, readOptionalTimestamp, eq_comm]
  · have hv : readOptionalTimestamp w.value = some <$> readTimestamp w.value := by
      unfold readOptionalTimestamp
      split
      · next hn => exact absurd (Written.value_eq_null_iff.1 hn) h
      · rfl
    simp only [hv, functor_map_eq_ok, readTimestamp_eq_ok, h, false_and, false_or]
    constructor
    · rintro ⟨u, ⟨s, hs, hu⟩, rfl⟩
      exact ⟨s, u, hs, hu, rfl⟩
    · rintro ⟨s, u, hs, hu, rfl⟩
      exact ⟨u, ⟨s, hs, hu⟩, rfl⟩

theorem readBelow_eq_ok {bound n : Nat} {wanted : Wanted} (hb : bound ≤ 2 ^ 64) :
    readBelow bound wanted w.value = .ok n ↔ n < bound ∧ w.integer? = some (n : Int) := by
  have hv : readBelow bound wanted w.value = .ok n ↔ n < bound ∧ w.value = .int n := by
    cases w.value with
    | int k =>
      simp only [readBelow, Json.int.injEq]
      split
      · next h =>
        simp only [Except.ok.injEq]
        omega
      · next h =>
        simp only [reduceCtorEq, false_iff]
        omega
    | _ => simp [readBelow]
  rw [hv]
  refine and_congr_right fun hn => Written.value_eq_int_iff ⟨?_, ?_⟩ <;> omega

theorem readByte_eq_ok {n : UInt8} : readByte w.value = .ok n ↔ w.integer? = some (n.toNat : Int) := by
  simp only [readByte, bind_eq_ok, readBelow_eq_ok (show 0x100 ≤ 2 ^ 64 by decide), pure,
    Except.pure, Except.ok.injEq]
  constructor
  · rintro ⟨k, ⟨hk, hw⟩, rfl⟩
    rw [hw, Nat.toUInt8_eq, UInt8.toNat_ofNat_of_lt' hk]
  · intro hw
    exact ⟨n.toNat, ⟨n.toNat_lt, hw⟩, UInt8.ofNat_toNat⟩

theorem readCount_eq_ok {n : UInt32} :
    readCount w.value = .ok n ↔ w.integer? = some (n.toNat : Int) := by
  simp only [readCount, bind_eq_ok, readBelow_eq_ok (show 0x100000000 ≤ 2 ^ 64 by decide),
    pure, Except.pure, Except.ok.injEq]
  constructor
  · rintro ⟨k, ⟨hk, hw⟩, rfl⟩
    rw [hw, Nat.toUInt32_eq, UInt32.toNat_ofNat_of_lt' hk]
  · intro hw
    exact ⟨n.toNat, ⟨n.toNat_lt, hw⟩, UInt32.ofNat_toNat⟩

theorem knownWord_eq_ok {ofName? : String → Option α} {known : List String} {word : String} {x : α} :
    knownWord ofName? known word = .ok x ↔ ofName? word = some x := by
  unfold knownWord
  cases ofName? word <;> simp

theorem readWord_eq_ok {ofName? : String → Option α} {known : List String} {x : α}
    (h : ∀ fs, w ≠ .object fs) :
    readWord ofName? known w.value = .ok x ↔ ∃ s, w = .string s ∧ ofName? s = some x := by
  simp only [← Written.value_eq_string_iff]
  cases hv : w.value with
  | string s => simp [readWord, knownWord_eq_ok]
  | object fs =>
    obtain ⟨ws, hw, -⟩ := Written.value_eq_object_iff.1 hv
    exact absurd hw (h ws)
  | _ => simp [readWord]

theorem readMode_eq_ok {m : Mode} (h : ∀ fs, w ≠ .object fs) :
    readMode w.value = .ok m ↔ w = .string m.name := by
  rw [readMode, readWord_eq_ok h]
  simp [Mode.ofName?_eq_some_iff]

theorem readStatus_eq_ok {s : Status} (h : ∀ fs, w ≠ .object fs) :
    readStatus w.value = .ok s ↔ w = .string s.name := by
  rw [readStatus, readWord_eq_ok h]
  simp [Status.ofName?_eq_some_iff]

theorem knownStage_eq_ok {name : String} {s : Stage} : knownStage name = .ok s ↔ name = s.name := by
  rw [← Stage.ofName?_eq_some_iff, knownStage]
  cases Stage.ofName? name <;> simp

theorem readStage_eq_ok {s : Stage} : readStage w.value = .ok s ↔ w = .string s.name := by
  simp only [readStage, bind_eq_ok, readText_eq_ok, knownStage_eq_ok]
  simp

/-! ### Fields -/

section Fields

variable {read : Json → Read α} {name : String} {fields : List (String × Written)}

theorem field?_fieldValues : field? read name (inOrder (fieldValues fields)) =
    match last? name fields with
    | some w => some <$> read w.value
    | none => .ok none := by
  unfold field?
  rw [Written.field?_fieldValues]
  cases last? name fields <;> rfl

theorem field?_eq_ok_some {x : α} : field? read name (inOrder (fieldValues fields)) = .ok (some x) ↔
    ∃ w, last? name fields = some w ∧ read w.value = .ok x := by
  rw [field?_fieldValues]
  cases last? name fields <;> simp [functor_map_eq_ok]

theorem field?_eq_ok_iff {x : α} {v : Written}
    (h : ∀ w, last? name fields = some w → (read w.value = .ok x ↔ w = v)) :
    field? read name (inOrder (fieldValues fields)) = .ok (some x) ↔ last? name fields = some v := by
  rw [field?_eq_ok_some]
  constructor
  · rintro ⟨w, hw, hr⟩
    rw [hw, (h w hw).1 hr]
  · intro hv
    exact ⟨v, hv, (h v hv).2 rfl⟩

theorem field?_optional {β : Type} {f : Option α → β} {x : β} :
    (∃ o, field? read name (inOrder (fieldValues fields)) = .ok o ∧ x = f o) ↔
      match last? name fields with
      | none => x = f none
      | some w => ∃ y, read w.value = .ok y ∧ x = f (some y) := by
  rw [field?_fieldValues]
  cases last? name fields <;> simp [functor_map_eq_ok]

theorem require_eq_ok {o : Option α} {x : α} : require name o = .ok x ↔ o = some x := by
  cases o <;> simp [require]

end Fields

end Document

open Document

/-! ### Entries -/

/-- A time that may be missing or null. -/
def TellsTime : Option Written → Option Instant → Prop
  | none, t => t = none
  | some w, t => (w = .null ∧ t = none) ∨ ∃ s u, w = .string s ∧ Instant.read? s = some u ∧ t = some u

/-- A number that may be missing and is zero then. -/
def TellsNumber : Option Written → Nat → Prop
  | none, n => n = 0
  | some w, n => w.integer? = some (n : Int)

structure Entry.Tells (fields : List (String × Written)) (e : Entry) : Prop where
  status : last? "status" fields = some (.string e.status.name)
  startedAt : TellsTime (last? "started_at" fields) e.startedAt
  completedAt : TellsTime (last? "completed_at" fields) e.completedAt
  rounds : TellsNumber (last? "iterations" fields) e.rounds.toNat

theorem tellsNumber_iff {α : Type} {read : Json → Read α} {toNat : α → Nat}
    (hread : ∀ w x, read (Written.value w) = .ok x ↔ w.integer? = some (toNat x : Int)) {zero x : α}
    (hzero : x = zero ↔ toNat x = 0) {name : String} {fields : List (String × Written)} :
    (∃ o, field? read name (inOrder (fieldValues fields)) = .ok o ∧ x = o.getD zero) ↔
      TellsNumber (last? name fields) (toNat x) := by
  rw [field?_optional]
  cases last? name fields <;> simp [TellsNumber, hread, hzero]

theorem tellsTime_iff {name : String} {fields : List (String × Written)} {t : Option Instant} :
    (∃ o, field? readOptionalTimestamp name (inOrder (fieldValues fields)) = .ok o ∧ t = o.join) ↔
      TellsTime (last? name fields) t := by
  rw [field?_optional]
  cases last? name fields <;> simp [TellsTime, readOptionalTimestamp_eq_ok]

namespace Entry

theorem ofFields_eq_ok {fields : List (String × Json)} {e : Entry} : ofFields fields = .ok e ↔
    (∃ o, field? readOptionalTimestamp "completed_at" fields = .ok o ∧ e.completedAt = o.join) ∧
    (∃ o, field? readCount "iterations" fields = .ok o ∧ e.rounds = o.getD 0) ∧
    (∃ o, field? readOptionalTimestamp "started_at" fields = .ok o ∧ e.startedAt = o.join) ∧
    field? readStatus "status" fields = .ok (some e.status) := by
  simp only [ofFields, bind_eq_ok, require_eq_ok, pure, Except.pure, Except.ok.injEq]
  constructor
  · rintro ⟨c, hcompleted, r, hrounds, s, hstarted, _, hstatus, _, rfl, rfl⟩
    exact ⟨⟨c, hcompleted, rfl⟩, ⟨r, hrounds, rfl⟩, ⟨s, hstarted, rfl⟩, hstatus⟩
  · rintro ⟨⟨c, hcompleted, hc⟩, ⟨r, hrounds, hr⟩, ⟨s, hstarted, hs⟩, hstatus⟩
    exact ⟨c, hcompleted, r, hrounds, s, hstarted, _, hstatus, e.status, rfl, by rw [← hc, ← hr, ← hs]⟩

theorem ofFields_iff_tells {fields : List (String × Written)} {e : Entry}
    (h : ∀ fs, last? "status" fields ≠ some (.object fs)) :
    ofFields (inOrder (fieldValues fields)) = .ok e ↔ Tells fields e := by
  have hstatus : field? readStatus "status" (inOrder (fieldValues fields)) = .ok (some e.status) ↔
      last? "status" fields = some (.string e.status.name) :=
    field?_eq_ok_iff fun w hw => readStatus_eq_ok fun fs he => h fs (he ▸ hw)
  have hrounds : e.rounds = 0 ↔ e.rounds.toNat = 0 := UInt32.toNat_inj.symm
  rw [ofFields_eq_ok, tellsTime_iff, tellsTime_iff, hstatus,
    tellsNumber_iff (fun _ _ => readCount_eq_ok) hrounds]
  constructor
  · rintro ⟨completedAt, rounds, startedAt, status⟩
    exact { status, startedAt, completedAt, rounds }
  · rintro ⟨status, startedAt, completedAt, rounds⟩
    exact ⟨completedAt, rounds, startedAt, status⟩

theorem ofJson_object (fields : List (String × Written)) :
    ofJson (Written.object fields).value = ofFields (inOrder (fieldValues fields)) := rfl

theorem ofJson_iff_tells {w : Written} {e : Entry} (hl : ∀ ws, w ≠ .array ws)
    (hs : ∀ fs, w = .object fs → ∀ gs, last? "status" fs ≠ some (.object gs)) :
    ofJson w.value = .ok e ↔ ∃ fs, w = .object fs ∧ Tells fs e := by
  cases hv : w.value with
  | object fs =>
    obtain ⟨ws, rfl, rfl⟩ := Written.value_eq_object_iff.1 hv
    simpa [ofJson] using ofFields_iff_tells (hs ws rfl)
  | array xs =>
    obtain ⟨ws, hw, -⟩ := Written.value_eq_array_iff.1 hv
    exact absurd hw (hl ws)
  | _ =>
    have hw (fs : List (String × Written)) : w ≠ .object fs := by
      rintro rfl
      simp [Written.value, Json.ofFields_eq] at hv
    simp [ofJson, hw]

/-! ### Tables -/

theorem find?_cons (s : Stage) (x : Stage × Entry) (entries : List (Stage × Entry)) :
    find? s (x :: entries) = if x.1 = s then some x.2 else find? s entries := by
  by_cases h : x.1 = s <;> simp [find?, h]

def readField (f : String × Json) : Read (Stage × Entry) :=
  return (← knownStage f.1, ← ofJson f.2)

theorem readField_eq_ok {f : String × Json} {x : Stage × Entry} :
    readField f = .ok x ↔ f.1 = x.1.name ∧ ofJson f.2 = .ok x.2 := by
  obtain ⟨s, e⟩ := x
  simp only [readField, bind_eq_ok, knownStage_eq_ok, pure, Except.pure, Except.ok.injEq,
    Prod.mk.injEq]
  constructor
  · rintro ⟨_, hs, _, he, rfl, rfl⟩
    exact ⟨hs, he⟩
  · rintro ⟨hs, he⟩
    exact ⟨s, hs, e, he, rfl, rfl⟩

section Fields

variable {fields : List (String × Json)} {entries : List (Stage × Entry)} {table : Stage → Entry}

theorem tableOfFields_eq (fields : List (String × Json)) : tableOfFields fields = (do
    let entries ← fields.mapM readField
    Stage.order.forM fun s =>
      if (find? s entries).isSome then .ok () else .error (.missingEntry s)
    return fun s => (find? s entries).getD untouched) := rfl

theorem exists_name_of_mem (h : fields.mapM readField = .ok entries) {k : String} {v : Json}
    (hf : (k, v) ∈ fields) : ∃ s : Stage, k = s.name := by
  replace h := mapM_eq_ok.1 h
  induction h with
  | nil => cases hf
  | @cons f x fields entries hfx h ih =>
    rcases List.mem_cons.1 hf with rfl | hf
    · exact ⟨x.1, (readField_eq_ok.1 hfx).1⟩
    · exact ih hf

theorem find?_eq_some_iff (h : fields.mapM readField = .ok entries) {s : Stage} {e : Entry} :
    find? s entries = some e ↔ ∃ v, Json.field? s.name fields = some v ∧ ofJson v = .ok e := by
  replace h := mapM_eq_ok.1 h
  induction h with
  | nil => simp [find?]
  | @cons f x fields entries hfx h ih =>
    obtain ⟨k, v⟩ := f
    obtain ⟨t, d⟩ := x
    obtain ⟨rfl, hv⟩ := readField_eq_ok.1 hfx
    rw [Json.field?_cons, find?_cons]
    by_cases hs : t = s
    · subst hs
      simp [hv]
    · have hn : t.name ≠ s.name := fun hn =>
        hs (Option.some.inj ((Stage.ofName?_name t).symm.trans (hn ▸ Stage.ofName?_name s)))
      simpa only [hs, hn, if_false] using ih

/-- Each key stands once, so what is read for the stages is all that has to be read. -/
theorem exists_mapM_readField (ho : Json.Ordered fields)
    (hnames : ∀ k v, (k, v) ∈ fields → ∃ s : Stage, k = s.name)
    (hall : ∀ s : Stage, ∃ v, Json.field? s.name fields = some v ∧ ofJson v = .ok (table s)) :
    ∃ entries, fields.mapM readField = .ok entries := by
  let entry (f : String × Json) : Stage × Entry :=
    let s := (Stage.ofName? f.1).getD .init
    (s, table s)
  refine ⟨fields.map entry, mapM_eq_ok_map ?_⟩
  rintro ⟨k, v⟩ hkv
  obtain ⟨s, rfl⟩ := hnames k v hkv
  obtain ⟨v', hv', he⟩ := hall s
  -- Were the key to stand twice, the field looked up would be the first one, and this might be another.
  obtain rfl : v = v' := Option.some.inj ((ho.mem_iff.1 hkv).symm.trans hv')
  exact readField_eq_ok.2 (by simpa [entry, Stage.ofName?_name] using he)

theorem tableOfFields_eq_ok (ho : Json.Ordered fields) : tableOfFields fields = .ok table ↔
    (∀ k v, (k, v) ∈ fields → ∃ s : Stage, k = s.name) ∧
    ∀ s : Stage, ∃ v, Json.field? s.name fields = some v ∧ ofJson v = .ok (table s) := by
  simp only [tableOfFields_eq, bind_eq_ok, forM_eq_ok, pure, Except.pure, Except.ok.injEq]
  constructor
  · rintro ⟨entries, hm, -, hall, rfl⟩
    refine ⟨fun k v hkv => exists_name_of_mem hm hkv, fun s => ?_⟩
    have hs := hall s (Stage.mem_order s)
    cases hf : find? s entries with
    | none => simp [hf] at hs
    | some e => simpa [hf] using (find?_eq_some_iff hm).1 hf
  · rintro ⟨hnames, hall⟩
    obtain ⟨entries, hm⟩ := exists_mapM_readField ho hnames hall
    have hfind (s : Stage) : find? s entries = some (table s) := (find?_eq_some_iff hm).2 (hall s)
    exact ⟨entries, hm, (), fun s _ => by simp [hfind], funext fun s => by simp [hfind]⟩

end Fields

/-- The fields of a table tell one entry for every stage and have no other keys. -/
structure TellsTable (fields : List (String × Written)) (table : Stage → Entry) : Prop where
  keys : ∀ key, key ∈ fields.map (·.1) ↔ ∃ s : Stage, key = s.name
  entries : ∀ s : Stage, ∃ fs, last? s.name fields = some (.object fs) ∧ Tells fs (table s)

theorem exists_name_iff {fields : List (String × Written)} :
    (∀ k v, (k, v) ∈ inOrder (fieldValues fields) → ∃ s : Stage, k = s.name) ↔
      ∀ key ∈ fields.map (·.1), ∃ s : Stage, key = s.name := by
  simp only [(Json.ordered_inOrder _).mem_iff, Written.field?_fieldValues, ← Written.last?_isSome_iff]
  constructor
  · intro h key hk
    obtain ⟨w, hw⟩ := Option.isSome_iff_exists.1 hk
    exact h key w.value (by rw [hw]; rfl)
  · intro h key v hv
    obtain ⟨w, hw, -⟩ := Option.map_eq_some_iff.1 hv
    exact h key (by rw [hw]; rfl)

theorem tableOfJson_object (fields : List (String × Written)) :
    tableOfJson (Written.object fields).value = tableOfFields (inOrder (fieldValues fields)) := rfl

theorem object_of_tableOfJson {w : Written} {table : Stage → Entry}
    (h : tableOfJson w.value = .ok table) : ∃ fields, w = .object fields := by
  cases hv : w.value with
  | object fs =>
    obtain ⟨fields, hw, -⟩ := Written.value_eq_object_iff.1 hv
    exact ⟨fields, hw⟩
  | _ => simp [hv, tableOfJson] at h

theorem tableOfJson_iff_tells {fields : List (String × Written)} {table : Stage → Entry}
    (hl : ∀ (s : Stage) ws, last? s.name fields ≠ some (.array ws))
    (hs : ∀ (s : Stage) fs, last? s.name fields = some (.object fs) →
      ∀ gs, last? "status" fs ≠ some (.object gs)) :
    tableOfJson (Written.object fields).value = .ok table ↔ TellsTable fields table := by
  have hentry (s : Stage) : (∃ v, Json.field? s.name (inOrder (fieldValues fields)) = some v ∧
      ofJson v = .ok (table s)) ↔
      ∃ fs, last? s.name fields = some (.object fs) ∧ Tells fs (table s) := by
    simp only [Written.field?_fieldValues]
    cases hw : last? s.name fields with
    | none => simp
    | some w =>
      simp [ofJson_iff_tells (fun ws h => hl s ws (h ▸ hw)) (fun fs h => hs s fs (h ▸ hw))]
  rw [tableOfJson_object, tableOfFields_eq_ok (Json.ordered_inOrder _), exists_name_iff]
  simp only [hentry]
  constructor
  · rintro ⟨hkeys, hentries⟩
    refine ⟨fun key => ⟨hkeys key, ?_⟩, hentries⟩
    rintro ⟨s, rfl⟩
    obtain ⟨fs, hfs, -⟩ := hentries s
    rw [← Written.last?_isSome_iff, hfs]
    rfl
  · rintro ⟨hkeys, hentries⟩
    exact ⟨fun key hk => (hkeys key).1 hk, hentries⟩

end Entry

/-! ### Projects -/

namespace Project

structure Tells (fields : List (String × Written)) (p : Project) : Prop where
  name : last? "name" fields = some (.string p.name)
  description : last? "description" fields = some (.string p.description)
  version : last? "version" fields = some (.string p.version)
  mode : last? "mode" fields = some (.string p.mode.name)
  stage : last? "current_stage" fields = some (.string p.stage.name)
  createdAt : ∃ s, last? "created_at" fields = some (.string s) ∧ Instant.read? s = some p.createdAt
  updatedAt : ∃ s, last? "updated_at" fields = some (.string s) ∧ Instant.read? s = some p.updatedAt
  entries : ∃ es, last? "stage_status" fields = some (.object es) ∧ Entry.TellsTable es p.entries
  score : TellsNumber (last? "clarity_score" fields) p.score.toNat

/-- The mode and the statuses are not wrapped in objects, and the entries of stages are no lists. -/
structure IsDirect (fields : List (String × Written)) : Prop where
  mode : ∀ fs, last? "mode" fields ≠ some (.object fs)
  entries : ∀ es, last? "stage_status" fields = some (.object es) → ∀ (s : Stage) ws,
    last? s.name es ≠ some (.array ws)
  statuses : ∀ es, last? "stage_status" fields = some (.object es) → ∀ (s : Stage) fs,
    last? s.name es = some (.object fs) → ∀ gs, last? "status" fs ≠ some (.object gs)

theorem ofFields_eq_ok {fields : List (String × Json)} {p : Project} : ofFields fields = .ok p ↔
    (∃ o, field? readByte "clarity_score" fields = .ok o ∧ p.score = o.getD 0) ∧
    field? readTimestamp "created_at" fields = .ok (some p.createdAt) ∧
    field? readStage "current_stage" fields = .ok (some p.stage) ∧
    field? readText "description" fields = .ok (some p.description) ∧
    field? readMode "mode" fields = .ok (some p.mode) ∧
    field? readText "name" fields = .ok (some p.name) ∧
    field? Entry.tableOfJson "stage_status" fields = .ok (some p.entries) ∧
    field? readTimestamp "updated_at" fields = .ok (some p.updatedAt) ∧
    field? readText "version" fields = .ok (some p.version) := by
  simp only [ofFields, bind_eq_ok, require_eq_ok, pure, Except.pure, Except.ok.injEq]
  constructor
  · rintro ⟨score, hscore, _, hcreated, _, hstage, _, hdescription, _, hmode, _, hname, _, hentries,
      _, hupdated, _, hversion, _, rfl, _, rfl, _, rfl, _, rfl, _, rfl, _, rfl, _, rfl, _, rfl, rfl⟩
    exact ⟨⟨score, hscore, rfl⟩, hcreated, hstage, hdescription, hmode, hname, hentries, hupdated,
      hversion⟩
  · rintro ⟨⟨score, hscore, hp⟩, hcreated, hstage, hdescription, hmode, hname, hentries, hupdated,
      hversion⟩
    exact ⟨score, hscore, _, hcreated, _, hstage, _, hdescription, _, hmode, _, hname, _, hentries,
      _, hupdated, _, hversion, _, rfl, _, rfl, _, rfl, _, rfl, _, rfl, _, rfl, _, rfl, _, rfl,
      by rw [← hp]⟩

theorem ofFields_iff_tells {fields : List (String × Written)} {p : Project} (h : IsDirect fields) :
    ofFields (inOrder (fieldValues fields)) = .ok p ↔ Tells fields p := by
  have hmode : field? readMode "mode" (inOrder (fieldValues fields)) = .ok (some p.mode) ↔
      last? "mode" fields = some (.string p.mode.name) :=
    field?_eq_ok_iff fun w hw => readMode_eq_ok fun fs he => h.mode fs (he ▸ hw)
  have hstage : field? readStage "current_stage" (inOrder (fieldValues fields)) = .ok (some p.stage) ↔
      last? "current_stage" fields = some (.string p.stage.name) :=
    field?_eq_ok_iff fun w _ => readStage_eq_ok
  have htext (name s : String) : field? readText name (inOrder (fieldValues fields)) = .ok (some s) ↔
      last? name fields = some (.string s) :=
    field?_eq_ok_iff fun w _ => readText_eq_ok
  have htime (name : String) (t : Instant) :
      field? readTimestamp name (inOrder (fieldValues fields)) = .ok (some t) ↔
      ∃ s, last? name fields = some (.string s) ∧ Instant.read? s = some t := by
    simp only [field?_eq_ok_some, readTimestamp_eq_ok]
    constructor
    · rintro ⟨_, hw, s, rfl, ht⟩
      exact ⟨s, hw, ht⟩
    · rintro ⟨s, hw, ht⟩
      exact ⟨_, hw, s, rfl, ht⟩
  have hentries : field? Entry.tableOfJson "stage_status" (inOrder (fieldValues fields)) =
      .ok (some p.entries) ↔
      ∃ es, last? "stage_status" fields = some (.object es) ∧ Entry.TellsTable es p.entries := by
    rw [field?_eq_ok_some]
    constructor
    · rintro ⟨w, hw, hr⟩
      obtain ⟨es, rfl⟩ := Entry.object_of_tableOfJson hr
      exact ⟨es, hw, (Entry.tableOfJson_iff_tells (h.entries es hw) (h.statuses es hw)).1 hr⟩
    · rintro ⟨es, hw, ht⟩
      exact ⟨_, hw, (Entry.tableOfJson_iff_tells (h.entries es hw) (h.statuses es hw)).2 ht⟩
  have hscore : p.score = 0 ↔ p.score.toNat = 0 := UInt8.toNat_inj.symm
  rw [ofFields_eq_ok, tellsNumber_iff (fun _ _ => readByte_eq_ok) hscore, htime, hstage, htext, hmode,
    htext, hentries, htime, htext]
  constructor
  · rintro ⟨score, createdAt, stage, description, mode, name, entries, updatedAt, version⟩
    exact { name, description, version, mode, stage, createdAt, updatedAt, entries, score }
  · rintro ⟨name, description, version, mode, stage, createdAt, updatedAt, entries, score⟩
    exact ⟨score, createdAt, stage, description, mode, name, entries, updatedAt, version⟩

theorem checkStage_eq_ok {fields : List (String × Written)} {p : Project} (h : Tells fields p) :
    checkStage (Written.object fields).value = .ok () := by
  have hs : (Written.object fields).value.get? "current_stage" = some (.string p.stage.name) :=
    (Written.field?_fieldValues _ _).trans (by rw [h.stage]; rfl)
  simp [checkStage, hs, Stage.ofName?_name]

theorem ofText_of_document {text : String} {fields : List (String × Written)}
    (hd : Json.document? text = some (.object fields)) :
    ofText text = (do
      checkStage (Written.object fields).value
      (ofFields (inOrder (fieldValues fields))).mapError .badShape) := by
  simp only [ofText, Json.parse?_eq_map_document?, hd, Option.map_some]
  rfl

theorem ofText_iff_tells {text : String} {fields : List (String × Written)} {p : Project}
    (hd : Json.document? text = some (.object fields)) (h : IsDirect fields) :
    ofText text = .ok p ↔ Tells fields p := by
  simp only [ofText_of_document hd, bind_eq_ok, mapError_eq_ok, ofFields_iff_tells h]
  constructor
  · rintro ⟨_, -, ht⟩
    exact ht
  · intro ht
    exact ⟨(), checkStage_eq_ok ht, ht⟩

end Project

end StageGate
