import StageGate.Proofs.Project.Reading
import StageGate.Proofs.Project.RoundTrip

/-!
Which project files are accepted: those whose fields hold what is demanded of them. What is demanded of a
field does not hang on the others, and other keys than those of a project and of its entries have no
influence at all.
-/

set_option autoImplicit false

namespace StageGate

open Document
open Json (Written inOrder)
open Json.Written (last? fieldValues)

/-! ### What is demanded -/

def IsTimestamp (w : Written) : Prop := ∃ s, w = .string s ∧ (Instant.read? s).isSome

/-- A whole number from zero up to a bound. -/
def IsBelow (bound : Nat) (w : Written) : Prop := ∃ n : Nat, w.integer? = some (n : Int) ∧ n < bound

structure Entry.Fits (fields : List (String × Written)) : Prop where
  status : ∃ s : Status, last? "status" fields = some (.string s.name)
  startedAt : ∀ w ∈ last? "started_at" fields, w = .null ∨ IsTimestamp w
  completedAt : ∀ w ∈ last? "completed_at" fields, w = .null ∨ IsTimestamp w
  rounds : ∀ w ∈ last? "iterations" fields, IsBelow (2 ^ 32) w

structure Entry.FitsTable (fields : List (String × Written)) : Prop where
  keys : ∀ key, key ∈ fields.map (·.1) ↔ ∃ s : Stage, key = s.name
  entries : ∀ s : Stage, ∃ fs, last? s.name fields = some (.object fs) ∧ Fits fs

/-- What the fields of a project must hold. -/
structure Project.Fits (fields : List (String × Written)) : Prop where
  name : ∃ s, last? "name" fields = some (.string s)
  description : ∃ s, last? "description" fields = some (.string s)
  version : ∃ s, last? "version" fields = some (.string s)
  mode : last? "mode" fields = some (.string "guided") ∨ last? "mode" fields = some (.string "expert")
  stage : ∃ s : Stage, last? "current_stage" fields = some (.string s.name)
  createdAt : ∃ w ∈ last? "created_at" fields, IsTimestamp w
  updatedAt : ∃ w ∈ last? "updated_at" fields, IsTimestamp w
  entries : ∃ es, last? "stage_status" fields = some (.object es) ∧ Entry.FitsTable es
  score : ∀ w ∈ last? "clarity_score" fields, IsBelow (2 ^ 8) w

theorem exists_tellsTime_iff {w? : Option Written} :
    (∃ t, TellsTime w? t) ↔ ∀ w ∈ w?, w = .null ∨ IsTimestamp w := by
  cases w? with
  | none => simp [TellsTime]
  | some w =>
    simp only [TellsTime, IsTimestamp, Option.mem_some_iff, forall_eq', Option.isSome_iff_exists]
    constructor
    · rintro ⟨t, ⟨h, -⟩ | ⟨s, u, hs, hu, -⟩⟩
      · exact .inl h
      · exact .inr ⟨s, hs, u, hu⟩
    · rintro (h | ⟨s, hs, u, hu⟩)
      · exact ⟨none, .inl ⟨h, rfl⟩⟩
      · exact ⟨some u, .inr ⟨s, u, hs, hu, rfl⟩⟩

theorem exists_tellsNumber_iff {w? : Option Written} {bound : Nat} (hb : 0 < bound) :
    (∃ n, TellsNumber w? n ∧ n < bound) ↔ ∀ w ∈ w?, IsBelow bound w := by
  cases w? with
  | none => simp [TellsNumber, hb]
  | some w => simp [TellsNumber, IsBelow]

theorem Entry.exists_tells_iff {fields : List (String × Written)} :
    (∃ e, Tells fields e) ↔ Fits fields := by
  constructor
  · rintro ⟨e, h⟩
    exact ⟨⟨e.status, h.status⟩, exists_tellsTime_iff.1 ⟨_, h.startedAt⟩,
      exists_tellsTime_iff.1 ⟨_, h.completedAt⟩,
      (exists_tellsNumber_iff (by decide)).1 ⟨_, h.rounds, e.rounds.toNat_lt⟩⟩
  · intro h
    obtain ⟨status, hstatus⟩ := h.status
    obtain ⟨startedAt, hs⟩ := exists_tellsTime_iff.2 h.startedAt
    obtain ⟨completedAt, hc⟩ := exists_tellsTime_iff.2 h.completedAt
    obtain ⟨n, hn, hlt⟩ := (exists_tellsNumber_iff (by decide)).2 h.rounds
    refine ⟨⟨status, startedAt, completedAt, UInt32.ofNat n⟩, hstatus, hs, hc, ?_⟩
    rwa [UInt32.toNat_ofNat_of_lt' hlt]

theorem Entry.exists_tellsTable_iff {fields : List (String × Written)} :
    (∃ table, TellsTable fields table) ↔ FitsTable fields := by
  constructor
  · rintro ⟨table, h⟩
    refine ⟨h.keys, fun s => ?_⟩
    obtain ⟨fs, hfs, ht⟩ := h.entries s
    exact ⟨fs, hfs, exists_tells_iff.1 ⟨_, ht⟩⟩
  · intro h
    choose fs hfs hfits using h.entries
    choose table htable using fun s => exists_tells_iff.2 (hfits s)
    exact ⟨table, h.keys, fun s => ⟨fs s, hfs s, htable s⟩⟩

theorem Project.exists_tells_iff {fields : List (String × Written)} :
    (∃ p, Tells fields p) ↔ Fits fields := by
  have hmode : (∃ m : Mode, last? "mode" fields = some (.string m.name)) ↔
      last? "mode" fields = some (.string "guided") ∨ last? "mode" fields = some (.string "expert") := by
    constructor
    · rintro ⟨_ | _, h⟩
      · exact .inl h
      · exact .inr h
    · rintro (h | h)
      · exact ⟨.guided, h⟩
      · exact ⟨.expert, h⟩
  constructor
  · rintro ⟨p, h⟩
    obtain ⟨c, hc, hc'⟩ := h.createdAt
    obtain ⟨u, hu, hu'⟩ := h.updatedAt
    obtain ⟨es, hes, ht⟩ := h.entries
    exact ⟨⟨_, h.name⟩, ⟨_, h.description⟩, ⟨_, h.version⟩, hmode.1 ⟨_, h.mode⟩, ⟨_, h.stage⟩,
      ⟨_, hc, c, rfl, by rw [hc']; rfl⟩, ⟨_, hu, u, rfl, by rw [hu']; rfl⟩,
      ⟨es, hes, Entry.exists_tellsTable_iff.1 ⟨_, ht⟩⟩,
      (exists_tellsNumber_iff (by decide)).1 ⟨_, h.score, p.score.toNat_lt⟩⟩
  · intro h
    obtain ⟨name, hname⟩ := h.name
    obtain ⟨description, hdescription⟩ := h.description
    obtain ⟨version, hversion⟩ := h.version
    obtain ⟨mode, hm⟩ := hmode.2 h.mode
    obtain ⟨stage, hstage⟩ := h.stage
    obtain ⟨_, hc, c, rfl, hc'⟩ := h.createdAt
    obtain ⟨_, hu, u, rfl, hu'⟩ := h.updatedAt
    obtain ⟨createdAt, hc'⟩ := Option.isSome_iff_exists.1 hc'
    obtain ⟨updatedAt, hu'⟩ := Option.isSome_iff_exists.1 hu'
    obtain ⟨es, hes, hfits⟩ := h.entries
    obtain ⟨entries, ht⟩ := Entry.exists_tellsTable_iff.2 hfits
    obtain ⟨n, hn, hlt⟩ := (exists_tellsNumber_iff (by decide)).2 h.score
    refine ⟨{ name, description, version, mode, stage, createdAt, updatedAt, entries,
              score := UInt8.ofNat n }, hname, hdescription, hversion, hm, hstage, ⟨c, hc, hc'⟩,
      ⟨u, hu, hu'⟩, ⟨es, hes, ht⟩, ?_⟩
    rwa [UInt8.toNat_ofNat_of_lt' hlt]

/-! ### Other keys -/

theorem Document.field?_congr {α : Type} {read : Json → Read α} {name : String}
    {fs gs : List (String × Written)}
    (h : (last? name fs).map (fun w => read w.value) = (last? name gs).map fun w => read w.value) :
    field? read name (inOrder (fieldValues fs)) = field? read name (inOrder (fieldValues gs)) := by
  rw [field?_fieldValues, field?_fieldValues]
  cases hf : last? name fs <;> cases hg : last? name gs <;> simp_all

namespace Entry

def keys : List String := ["completed_at", "iterations", "started_at", "status"]

def bare : Written → Written
  | .object fs => .object (fs.filter (·.1 ∈ keys))
  | w => w

def bareTable : Written → Written
  | .object es => .object (es.map fun f => (f.1, bare f.2))
  | w => w

theorem ofJson_bare (w : Written) : ofJson (bare w).value = ofJson w.value := by
  cases w with
  | object fs =>
    have hfield {α : Type} (read : Json → Read α) {name : String} (h : name ∈ keys) :
        field? read name (inOrder (fieldValues (fs.filter (·.1 ∈ keys)))) =
          field? read name (inOrder (fieldValues fs)) :=
      field?_congr (by rw [Written.last?_filter h])
    rw [bare, ofJson_object, ofJson_object]
    simp only [ofFields, hfield _ (show "completed_at" ∈ keys by decide),
      hfield _ (show "iterations" ∈ keys by decide), hfield _ (show "started_at" ∈ keys by decide),
      hfield _ (show "status" ∈ keys by decide)]
  | _ => rfl

theorem tableOfJson_bareTable (w : Written) :
    tableOfJson (bareTable w).value = tableOfJson w.value := by
  cases w with
  | object es =>
    have hraw : List.Forall₂ (Json.SameKey fun v v' => ofJson v = ofJson v')
        (fieldValues (es.map fun f => (f.1, bare f.2))) (fieldValues es) := by
      rw [Written.fieldValues_eq_map, Written.fieldValues_eq_map, List.map_map,
        List.forall₂_map_left_iff, List.forall₂_map_right_iff, List.forall₂_same]
      exact fun f _ => ⟨rfl, ofJson_bare f.2⟩
    have hread : (inOrder (fieldValues (es.map fun f => (f.1, bare f.2)))).mapM readField =
        (inOrder (fieldValues es)).mapM readField := by
      refine mapM_congr ((Json.forall₂_inOrder hraw).imp fun f g hfg => ?_)
      rw [readField, readField, hfg.1, hfg.2]
    rw [bareTable, tableOfJson_object, tableOfJson_object, tableOfFields_eq, tableOfFields_eq, hread]
  | _ => rfl

end Entry

namespace Project

def keys : List String := ["clarity_score", "created_at", "current_stage", "description", "mode", "name",
  "stage_status", "updated_at", "version"]

/-- The fields of a project without other keys, and without other keys in its entries. -/
def bare (fields : List (String × Written)) : List (String × Written) :=
  (fields.filter (·.1 ∈ keys)).map fun f =>
    (f.1, if f.1 = "stage_status" then Entry.bareTable f.2 else f.2)

theorem last?_bare {key : String} (h : key ∈ keys) (fields : List (String × Written)) :
    last? key (bare fields) =
      (last? key fields).map fun w => if key = "stage_status" then Entry.bareTable w else w := by
  rw [bare, Written.last?_map fun k w => if k = "stage_status" then Entry.bareTable w else w,
    Written.last?_filter h]

theorem ofFields_bare (fields : List (String × Written)) :
    ofFields (inOrder (fieldValues (bare fields))) = ofFields (inOrder (fieldValues fields)) := by
  have hfield {α : Type} (read : Json → Read α) {name : String} (h : name ∈ keys)
      (hn : name ≠ "stage_status") : field? read name (inOrder (fieldValues (bare fields))) =
        field? read name (inOrder (fieldValues fields)) :=
    field?_congr (by simp [last?_bare h, hn])
  have hentries : field? Entry.tableOfJson "stage_status" (inOrder (fieldValues (bare fields))) =
      field? Entry.tableOfJson "stage_status" (inOrder (fieldValues fields)) := by
    apply field?_congr
    rw [last?_bare (by decide), Option.map_map]
    exact congrArg (Option.map · _) (funext fun w => Entry.tableOfJson_bareTable w)
  simp only [ofFields, hentries, hfield _ (show "clarity_score" ∈ keys by decide) (by decide),
    hfield _ (show "created_at" ∈ keys by decide) (by decide),
    hfield _ (show "current_stage" ∈ keys by decide) (by decide),
    hfield _ (show "description" ∈ keys by decide) (by decide),
    hfield _ (show "mode" ∈ keys by decide) (by decide),
    hfield _ (show "name" ∈ keys by decide) (by decide),
    hfield _ (show "updated_at" ∈ keys by decide) (by decide),
    hfield _ (show "version" ∈ keys by decide) (by decide)]

/-- Other keys have no influence on what is read, nor on the fault where nothing is. -/
theorem ofText_congr {text text' : String} {fields fields' : List (String × Written)}
    (hd : Json.document? text = some (.object fields))
    (hd' : Json.document? text' = some (.object fields')) (h : bare fields = bare fields') :
    ofText text = ofText text' := by
  have hstage : checkStage (Written.object fields).value = checkStage (Written.object fields').value := by
    have hl (fields : List (String × Written)) :
        (Written.object fields).value.get? "current_stage" =
          (last? "current_stage" (bare fields)).map Written.value := by
      rw [last?_bare (by decide)]
      exact (Written.field?_fieldValues _ _).trans (by simp)
    rw [checkStage, checkStage, hl, hl, h]
  rw [ofText_of_document hd, ofText_of_document hd', hstage, ← ofFields_bare fields,
    ← ofFields_bare fields', h]

/-! ### What is saved -/

theorem last?_ne_object {key s : String} {fields : List (String × Written)}
    (h : Json.field? key (inOrder (fieldValues fields)) = some (.string s))
    (fs : List (String × Written)) : last? key fields ≠ some (.object fs) := by
  intro hl
  rw [Written.field?_fieldValues, hl, Option.map_some, Option.some.injEq,
    Written.value_eq_string_iff] at h
  cases h

theorem inOrder_of_last? {key : String} {fields es : List (String × Written)}
    {fs : List (String × Json)} (hl : last? key fields = some (.object es))
    (h : Json.field? key (inOrder (fieldValues fields)) = some (.object fs)) :
    inOrder (fieldValues es) = fs := by
  rw [Written.field?_fieldValues, hl] at h
  exact Json.object.inj (Option.some.inj h)

theorem isDirect_toText (p : Project) :
    ∃ fields, Json.document? p.toText = some (.object fields) ∧ IsDirect fields := by
  have hparse := Json.parse?_pretty (p.plain_toJson 124)
  rw [Json.parse?_eq_map_document?, sorted_toJson, Option.map_eq_some_iff] at hparse
  obtain ⟨w, hw, hv⟩ := hparse
  obtain ⟨fields, rfl, hf⟩ := Written.value_eq_object_iff.1 hv
  have hentry (es : List (String × Written)) (hes : last? "stage_status" fields = some (.object es))
      (s : Stage) : Json.field? s.name (inOrder (fieldValues es)) =
        some (.object (p.entries s).sortedFields) := by
    have htable : Json.field? "stage_status" (inOrder (fieldValues fields)) =
        some (.object (Entry.stagesByName.map fun s => (s.name, (p.entries s).toJson.sorted))) := by
      rw [hf, ← Entry.sorted_table]
      simp [sortedFields, Json.field?_cons]
    rw [inOrder_of_last? hes htable, ← Entry.sorted_toJson]
    cases s <;> simp [Entry.stagesByName, Stage.name, Json.field?_cons]
  refine ⟨fields, hw, ?_, fun es hes s ws hl => ?_, fun es hes s fs hl => ?_⟩
  · apply last?_ne_object (s := p.mode.name)
    simp [hf, sortedFields, Json.field?_cons]
  · have h := hentry es hes s
    rw [Written.field?_fieldValues, hl] at h
    cases h
  · apply last?_ne_object (s := (p.entries s).status.name)
    rw [inOrder_of_last? hl (hentry es hes s)]
    cases hc : (p.entries s).completedAt <;> cases hs : (p.entries s).startedAt <;>
      simp [Entry.sortedFields, hc, hs, Json.field?_cons]

/-! ### Acceptance -/

/-- A project file with an object in it is accepted exactly if its fields hold what is demanded, and then
the project is read that they tell; other keys have no influence. A text beyond the limits of the reader,
with a number too great or values nested too deeply, is no document and refused before. -/
theorem read_by_schema {text : String} {fields : List (String × Written)}
    (hd : Json.document? text = some (.object fields)) (h : IsDirect fields) :
    ((∃ p, ofText text = .ok p) ↔ Fits fields) ∧
    (∀ p, ofText text = .ok p ↔ Tells fields p) ∧
    ∀ text' fields', Json.document? text' = some (.object fields') → bare fields' = bare fields →
      ofText text' = ofText text := by
  have hread (p : Project) : ofText text = .ok p ↔ Tells fields p := ofText_iff_tells hd h
  refine ⟨?_, hread, fun text' fields' hd' hb => ofText_congr hd' hd hb⟩
  simp only [hread, exists_tells_iff]

def someDay : Instant := ⟨⟨2026, 2, 10, by decide⟩, 50400, 250000000, by decide, by decide, by decide⟩

theorem read_by_schema_blank :
    let p := blank "shop" "sells flowers" .guided someDay
    ∃ fields, Json.document? p.toText = some (.object fields) ∧ IsDirect fields ∧ Fits fields ∧
      Tells fields p ∧ ∀ text' fields', Json.document? text' = some (.object fields') →
        bare fields' = bare fields → ofText text' = .ok p := by
  intro p
  obtain ⟨fields, hd, h⟩ := isDirect_toText p
  obtain ⟨hfits, htells, hbare⟩ := read_by_schema hd h
  have hp : ofText p.toText = .ok p := p.ofText_toText
  exact ⟨fields, hd, h, hfits.1 ⟨p, hp⟩, (htells p).1 hp,
    fun text' fields' hd' hb => (hbare text' fields' hd' hb).trans hp⟩

end Project

end StageGate
