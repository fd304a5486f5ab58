import Mathlib.Tactic.IntervalCases
import FramePipeline.Config.Environment
import FramePipeline.Proofs.Config.Layers

/-!
# Names of variables

A variable is named for the leaf that it sets: `CARTOON`, the section and the setting in capitals, with two
underscores between them. In lower case and with points for the double underscores, this is the path of the
leaf.

Main definitions: `Environment.path?` (the path that a variable sets), `Config.Leaf.variableName`. Main
statement: `Config.Leaf.path?_variableName`.
-/

namespace FramePipeline

/-! ## Lower case -/

namespace Text

/-- A small letter or an underscore. -/
def isSmall (c : Char) : Bool :=
  ('a' ≤ c && c ≤ 'z') || c = '_'

variable {cs : List Char}

theorem lowerChar_of_small {c : Char} (small : isSmall c = true) :
    (c ≠ 'Σ' ∧ lowerChar c = [c]) ∧ c.toUpper ≠ 'Σ' ∧ lowerChar c.toUpper = [c] := by
  have code : c = Char.ofNat c.toNat := (Char.ofNat_toNat c).symm
  simp only [isSmall, Bool.or_eq_true, Bool.and_eq_true, decide_eq_true_eq] at small
  obtain ⟨first, last⟩ | rfl := small
  · have first : 97 ≤ c.toNat := first
    have last : c.toNat ≤ 122 := last
    rw [code]
    generalize c.toNat = n at first last
    interval_cases n <;> decide
  · decide

/-- Capitals of small letters are lowered to these. -/
theorem lowerFrom_upper (small : ∀ c ∈ cs, isSmall c = true) (before : List Char) :
    lowerFrom before (cs.map Char.toUpper) = cs := by
  induction cs generalizing before with
  | nil => rfl
  | cons c rest ih =>
    obtain ⟨-, notSigma, lower⟩ := lowerChar_of_small (small c (List.mem_cons_self ..))
    rw [List.map_cons, lowerFrom, if_neg notSigma, lower,
      ih fun d mem => small d (List.mem_cons_of_mem _ mem)]
    rfl

/-- A text is its own lower case if each of its characters is. -/
theorem lowerFrom_eq_self (fixed : ∀ c ∈ cs, c ≠ 'Σ' ∧ lowerChar c = [c]) (before : List Char) :
    lowerFrom before cs = cs := by
  induction cs generalizing before with
  | nil => rfl
  | cons c rest ih =>
    obtain ⟨notSigma, lower⟩ := fixed c (List.mem_cons_self ..)
    rw [lowerFrom, if_neg notSigma, lower, ih fun d mem => fixed d (List.mem_cons_of_mem _ mem)]
    rfl

/-- Small letters and points are as they are in lower case. -/
theorem lowerFrom_small (small : ∀ c ∈ cs, isSmall c = true ∨ c = '.') (before : List Char) :
    lowerFrom before cs = cs := by
  refine lowerFrom_eq_self (fun c mem => ?_) before
  obtain small | rfl := small c mem
  · exact (lowerChar_of_small small).1
  · decide

end Text

/-! ## Paths -/

namespace Environment

open Text (isSmall lowerFrom_upper lowerFrom_small)

/-- The path that a variable sets, if it sets one. -/
def path? (name : String) : Option KeyPath :=
  (key? name).map KeyPath.ofKey

theorem pointed_append {cs : List Char} (plain : ∀ c ∈ cs, c ≠ '_') (ds : List Char) :
    pointed (cs ++ '_' :: '_' :: ds) = cs ++ '.' :: pointed ds := by
  induction cs with
  | nil => rw [List.nil_append, List.nil_append, pointed]
  | cons c rest ih =>
    have differs := plain c (List.mem_cons_self ..)
    have rest := ih fun d mem => plain d (List.mem_cons_of_mem _ mem)
    rw [List.cons_append, pointed, rest, List.cons_append]
    simp [differs]

end Environment

namespace Config.Leaf

open Environment (path? key? namePrefix pointed)
open Text (isSmall lowercase)

/-- The name of the variable of a leaf. -/
def variableName (leaf : Leaf) : String :=
  "CARTOON__" ++ leaf.part.name.toUpper ++ "__" ++ leaf.setting.name.toUpper

/-- Names of sections are of small letters; those of settings have single underscores as well. -/
theorem names : ∀ leaf ∈ all, leaf.part.name.toList.all (fun c => isSmall c && c ≠ '_') = true ∧
    leaf.setting.name.toList.all isSmall = true ∧
    pointed leaf.setting.name.toList = leaf.setting.name.toList ∧
    KeyPath.scan.parse? (leaf.part.name.toList ++ '.' :: leaf.setting.name.toList) = some leaf.path := by
  decide +kernel

/-- **Names of variables.** The variable of a leaf sets the path of the leaf. -/
theorem path?_variableName {leaf : Leaf} (mem : leaf ∈ all) : path? leaf.variableName = some leaf.path := by
  obtain ⟨part, setting, single, scanned⟩ := names leaf mem
  generalize part_eq : leaf.part.name.toList = ps at part scanned
  generalize setting_eq : leaf.setting.name.toList = ns at setting single scanned
  simp only [List.all_eq_true, Bool.and_eq_true, decide_eq_true_eq] at part setting
  have spelled : leaf.variableName.toList = (namePrefix ++ (ps ++ '_' :: '_' :: ns)).map Char.toUpper := by
    simp [variableName, String.toUpper, String.toList_map, part_eq, setting_eq, namePrefix]
  have lowered : (lowercase leaf.variableName).toList = namePrefix ++ (ps ++ '_' :: '_' :: ns) := by
    rw [lowercase, String.toList_ofList, spelled, Text.lowerFrom_upper]
    intro c mem
    simp only [List.mem_append, List.mem_cons] at mem
    have first : ∀ c ∈ namePrefix, isSmall c = true := List.all_eq_true.mp (by decide)
    obtain mem | mem | rfl | rfl | mem := mem
    · exact first c mem
    · exact (part c mem).1
    · rfl
    · rfl
    · exact setting c mem
  have key : key? leaf.variableName = some (String.ofList (ps ++ '.' :: ns)) := by
    have begins : namePrefix.isPrefixOf (namePrefix ++ (ps ++ '_' :: '_' :: ns)) = true := by
      simp
    simp only [key?, lowered, begins, if_true, List.drop_left]
    rw [Environment.pointed_append fun c mem => (part c mem).2, single]
  have small : lowercase (String.ofList (ps ++ '.' :: ns)) = String.ofList (ps ++ '.' :: ns) := by
    rw [lowercase, String.toList_ofList, Text.lowerFrom_small]
    intro c mem
    simp only [List.mem_append, List.mem_cons] at mem
    obtain mem | rfl | mem := mem
    · exact .inl (part c mem).1
    · exact .inr rfl
    · exact .inl (setting c mem)
  rw [path?, key, Option.map_some, KeyPath.ofKey, small, String.toList_ofList, scanned, Option.getD_some]

end Config.Leaf

end FramePipeline
