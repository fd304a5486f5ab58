import Mathlib.Data.List.Pairwise
import Mathlib.Tactic.MkIffOfInductiveProp
import FramePipeline.Config.Record

/-!
# Settings of a record

A record of settings converts a table field by field. What comes of a setting depends on what the table
gives for it, and on nothing else: it is converted if it is given, and it keeps its default otherwise.

Main definitions: `Setting` (a field with its kind and the ways it is read and set), `Setting.converted`
(what comes of it), `Record.SettingsInv` (the fields of a record are these settings, which do not disturb each
other). Main statement: `Record.SettingsInv.convertEntries_cases`.
-/

namespace FramePipeline

/-- A field of a record `σ`, with its kind and the ways it is read and set. -/
structure Setting (σ : Type) where
  {α : Type}
  name : String
  kind : Kind α
  get : σ → α
  set : α → σ → σ
  get_set : ∀ a s, get (set a s) = a := by intro a s; rfl

namespace Setting

variable {σ : Type}

/-- The setting as a field. -/
def field (x : Setting σ) : Field σ :=
  Field.of x.name x.kind x.get x.set

/-- What a value, if there is one, converts to; without one it is what the setting is in `s`. -/
def converted (x : Setting σ) (s : σ) : Option Value → Except Fault x.α
  | some v => x.kind.convert v
  | none => .ok (x.get s)

/-- They have different names, and setting the second leaves the first alone. -/
@[mk_iff]
structure Apart (x y : Setting σ) : Prop where
  name_ne : x.name ≠ y.name
  get_set : ∀ a s, x.get (y.set a s) = x.get s

end Setting

namespace Record

variable {σ : Type} {r : Record σ} {settings : List (Setting σ)}

/-- The fields of a record are these settings, and each can be set on its own. -/
structure SettingsInv (r : Record σ) (settings : List (Setting σ)) : Prop where
  fields_eq : r.fields = settings.map Setting.field
  apart : settings.Pairwise fun x y => x.Apart y ∧ y.Apart x

namespace SettingsInv

theorem field?_cases (h : r.SettingsInv settings) (key : String) :
    (r.field? key = none ∧ ∀ x ∈ settings, x.name ≠ key) ∨
      ∃ x ∈ settings, x.name = key ∧ r.field? key = some x.field := by
  unfold field?
  rw [h.fields_eq, List.find?_map]
  cases found : settings.find? ((fun f : Field σ => decide (f.name = key)) ∘ Setting.field) with
  | none =>
    refine .inl ⟨rfl, fun x mem same => ?_⟩
    have differs := List.find?_eq_none.mp found x mem
    simp [Setting.field, Field.of, same] at differs
  | some x =>
    have same := List.find?_some found
    exact .inr ⟨x, List.mem_of_find?_eq_some found, of_decide_eq_true same, rfl⟩

/-- Two settings are the same one, or apart. -/
theorem eq_or_apart (h : r.SettingsInv settings) {x y : Setting σ} (mem : x ∈ settings)
    (mem' : y ∈ settings) :
    x = y ∨ x.Apart y := by
  by_cases same : x = y
  · exact .inl same
  · have : Std.Symm fun x y : Setting σ => x.Apart y ∧ y.Apart x := ⟨fun _ _ => And.symm⟩
    exact .inr (h.apart.forall mem mem' same).1

/-- **Conversion of a table.** Either all that is given for settings converts, and the record has what it
converts to and is as before where nothing is given; or something that is given for a setting does not
convert, and nor does the table. -/
theorem convertEntries_cases (h : r.SettingsInv settings) {es : Entries Value} (once : (es.map (·.1)).Nodup)
    (s : σ) :
    (∃ s', r.convertEntries es s = .ok s' ∧
        ∀ x ∈ settings, x.converted s (es.lookup x.name) = .ok (x.get s')) ∨
      ((∃ fault, r.convertEntries es s = .error fault) ∧
        ∃ x ∈ settings, ∃ fault, x.converted s (es.lookup x.name) = .error fault) := by
  induction es generalizing s with
  | nil => exact .inl ⟨s, rfl, fun x _ => rfl⟩
  | cons e rest ih =>
    obtain ⟨key, v⟩ := e
    obtain ⟨fresh, once'⟩ := List.nodup_cons.mp once
    have skips : ∀ x : Setting σ, x.name ≠ key →
        List.lookup x.name ((key, v) :: rest) = List.lookup x.name rest := fun x other => by
      rw [List.lookup_cons, beq_eq_false_iff_ne.mpr other]
    obtain ⟨unknown, others⟩ | ⟨x, mem, rfl, known⟩ := h.field?_cases key
    · -- a name that no setting has is passed over
      have passed : r.convertEntries ((key, v) :: rest) s = r.convertEntries rest s := by
        simp only [convertEntries, unknown]
      rw [passed]
      obtain ⟨s', ok, all⟩ | ⟨failed, y, mem, fault, bad⟩ := ih once' s
      · exact .inl ⟨s', ok, fun y mem => (skips y (others y mem)).symm ▸ all y mem⟩
      · exact .inr ⟨failed, y, mem, fault, (skips y (others y mem)).symm ▸ bad⟩
    · have here : List.lookup x.name ((x.name, v) :: rest) = some v := List.lookup_cons_self
      cases value : x.kind.convert v with
      | error fault =>
        refine .inr ⟨⟨fault.under x.name, ?_⟩, x, mem, fault, ?_⟩
        · simp only [convertEntries, known, Setting.field, Field.of, value]
          rfl
        · rw [here]
          exact value
      | ok a =>
        have goes_on : r.convertEntries ((x.name, v) :: rest) s = r.convertEntries rest (x.set a s) := by
          simp only [convertEntries, known, Setting.field, Field.of, value]
          rfl
        -- what is given for each setting is the same from here on
        have given : ∀ y ∈ settings, y.converted (x.set a s) (List.lookup y.name rest) =
            y.converted s (List.lookup y.name ((x.name, v) :: rest)) := by
          intro y mem'
          obtain rfl | apart := h.eq_or_apart mem' mem
          · have absent : List.lookup y.name rest = none := by
              refine List.lookup_eq_none_iff.mpr fun e there => ?_
              simpa using fun is : y.name = e.1 => fresh (is ▸ List.mem_map_of_mem (f := (·.1)) there)
            rw [absent, here, Setting.converted, Setting.converted, value, y.get_set]
          · rw [skips y apart.name_ne]
            cases List.lookup y.name rest with
            | none => rw [Setting.converted, Setting.converted, apart.get_set]
            | some w => rfl
        rw [goes_on]
        obtain ⟨s', ok, all⟩ | ⟨failed, y, mem', fault, bad⟩ := ih once' (x.set a s)
        · exact .inl ⟨s', ok, fun y mem' => (given y mem') ▸ all y mem'⟩
        · exact .inr ⟨failed, y, mem', fault, (given y mem') ▸ bad⟩

end SettingsInv

end Record

end FramePipeline
