import FramePipeline.Config.Path
import FramePipeline.Proofs.Config.Leaves

/-!
# Layers of given values

A layer lists paths with their values, and is laid over what is given so far path by path. As long as
nothing in it stands above or below a leaf of the configuration, except for the tables of whole sections,
this comes down to something simple: each leaf holds what the layer gives for it, or what it held before.

Main definitions: `Value.onto` (what a value leaves over an older one), `Config.Leaf.inLayer?` (what a layer
gives for a leaf), `Config.IsPlaced` (what may stand in a layer), `Config.IsOrderly` (nothing else stands in
it, and it gives each leaf at most once). Main statement: `Config.IsSectioned.overlay`.
-/

namespace FramePipeline

open FramePipeline.Text (lowercase)

/-! ## Tables -/

namespace Value

variable {root target v : Value} {key : String} {es : Entries Value}

/-- What a value leaves over an older one: a table is merged into it, with its keys in lower case, and
anything else replaces it. -/
def onto (v : Value) (old : Option Value) : Value :=
  match v with
  | table _ incoming => merge (old.getD (table none [])) incoming
  | v => v

/-- What is held after something, or nothing, was given. -/
def updated (given old : Option Value) : Option Value :=
  match given with
  | some v => some (v.onto old)
  | none => old

/-- The value of the key that is `key` in lower case. -/
def inLowercase? (key : String) (es : Entries Value) : Option Value :=
  (es.find? fun e => lowercase e.1 = key).map (·.2)

theorem put_eq (root : Value) (key : String) (v : Value) :
    root.put key v = root.setKey key (v.onto (root.entries.lookup key)) := by
  cases v <;> rw [put] <;> rfl

theorem isTable_setKey (root : Value) (key : String) (v : Value) :
    ∃ origin, root.setKey key v = .table origin (Entries.put key v root.entries) := by
  cases root <;> exact ⟨_, rfl⟩

theorem entries_setKey (root : Value) (key : String) (v : Value) :
    (root.setKey key v).entries = Entries.put key v root.entries := by
  cases root <;> rfl

theorem isKeyed_setKey (once : (root.entries.map (·.1)).Nodup) (key : String) (v : Value) :
    (root.setKey key v).IsKeyed where
  isTable := by
    rw [entries_setKey]
    exact root.isTable_setKey key v
  once := by
    rw [entries_setKey]
    exact Entries.nodup_put once key v

theorem lookup_setKey (root : Value) (key other : String) (v : Value) :
    (root.setKey key v).entries.lookup other =
      if other = key then some v else root.entries.lookup other := by
  rw [entries_setKey]
  split
  · next same => rw [same, Entries.lookup_put_self]
  · next differs => exact Entries.lookup_put_of_ne differs v root.entries

theorem isKeyed_empty : (table none []).IsKeyed :=
  ⟨⟨none, rfl⟩, List.nodup_nil⟩

theorem IsKeyed.merge (h : target.IsKeyed) (es : Entries Value) : (target.merge es).IsKeyed := by
  induction es generalizing target with
  | nil =>
    rw [Value.merge]
    exact h
  | cons e rest ih =>
    obtain ⟨key, v⟩ := e
    rw [Value.merge, put_eq]
    exact ih (isKeyed_setKey h.once _ _)

/-- A merged table holds under each key what was given for it, or what it held before. -/
theorem lookup_merge (once : (es.map fun e => lowercase e.1).Nodup) (target : Value) (key : String) :
    (target.merge es).entries.lookup key = updated (inLowercase? key es) (target.entries.lookup key) := by
  induction es generalizing target with
  | nil =>
    rw [merge]
    rfl
  | cons e rest ih =>
    obtain ⟨k, v⟩ := e
    obtain ⟨fresh, once'⟩ := List.nodup_cons.mp once
    rw [merge, put_eq, ih once', lookup_setKey]
    by_cases same : lowercase k = key
    · have absent : inLowercase? key rest = none := by
        simp only [inLowercase?, Option.map_eq_none_iff, List.find?_eq_none, decide_eq_true_eq]
        intro e mem is
        exact fresh (List.mem_map.mpr ⟨e, mem, is.trans same.symm⟩)
      rw [absent, if_pos same.symm]
      simp [inLowercase?, same, updated]
    · rw [if_neg (Ne.symm same)]
      simp [inLowercase?, same]

end Value

/-! ## Steps -/

/-- The step can be taken from anywhere: an index counts from the front, and a list that reaches it fits into
memory. -/
def Step.Fits : Step → Prop
  | child _ => True
  | item i => 0 ≤ i ∧ Memory.reserve (i.toNat + 1) 96 = .ok ()

namespace Value

theorem exists_item {root : Value} {i : Int} (fits : (Step.item i).Fits) {f : Value → Except Overload Value}
    (ok : ∀ inner, ∃ w, f inner = .ok w) : ∃ w, root.item i f = .ok w := by
  obtain ⟨front, room⟩ := fits
  have place : placeOf root.items.length i = .ok i.toNat := by
    simp only [placeOf, if_pos front, if_neg (Int.not_lt.mpr front), room]
  obtain ⟨w, inner⟩ :=
    ok ((root.items ++ List.replicate (i.toNat + 1 - root.items.length) nil).getD i.toNat nil)
  simp only [item, place, bind, Except.bind, inner]
  split <;> exact ⟨_, rfl⟩

/-- Steps that fit always lead somewhere. -/
theorem exists_assignAt (v root : Value) (step : Step) (steps : List Step)
    (fits : ∀ s ∈ step :: steps, s.Fits) :
    ∃ w, assignAt v root step steps = .ok w := by
  induction steps generalizing root step with
  | nil =>
    cases step with
    | child key => exact ⟨_, rfl⟩
    | item i => exact exists_item (fits _ (List.mem_cons_self ..)) fun _ => ⟨v, rfl⟩
  | cons next rest ih =>
    have onwards : ∀ inner, ∃ w, assignAt v inner next rest = .ok w :=
      fun inner => ih inner next fun s mem => fits s (List.mem_cons_of_mem _ mem)
    cases step with
    | child key =>
      obtain ⟨w, inner⟩ := onwards ((root.entries.lookup key).getD nil)
      exact ⟨root.setKey key w, by simp only [assignAt, child, bind, Except.bind, inner]⟩
    | item i => exact exists_item (fits _ (List.mem_cons_self ..)) onwards

/-- A path sets its first key and no other. -/
theorem assignAt_child (v root : Value) (key : String) (steps : List Step) (fits : ∀ s ∈ steps, s.Fits) :
    ∃ w, assignAt v root (.child key) steps = .ok (root.setKey key w) := by
  cases steps with
  | nil => exact ⟨_, congrArg Except.ok (put_eq root key v)⟩
  | cons next rest =>
    obtain ⟨w, inner⟩ := exists_assignAt v ((root.entries.lookup key).getD nil) next rest fits
    exact ⟨w, by simp only [assignAt, child, bind, Except.bind, inner]⟩

end Value

/-! ## Sections -/

namespace Config

/-- The path of a leaf: its section and its name. -/
def Leaf.path (leaf : Leaf) : KeyPath :=
  ⟨leaf.part.name, [.child leaf.setting.name]⟩

/-- What a value at a path gives for a leaf: the table of its section gives what it has under the name of
the leaf, and the path of the leaf itself gives the value. -/
def Leaf.givenBy? (leaf : Leaf) (path : KeyPath) (v : Value) : Option Value :=
  if path = ⟨leaf.part.name, []⟩ then Value.inLowercase? leaf.setting.name v.entries
  else if path = leaf.path then some v
  else none

/-- What a layer gives for a leaf. -/
def Leaf.inLayer? (leaf : Leaf) (layer : Entries Value) : Option Value :=
  layer.findSome? fun e => leaf.givenBy? (KeyPath.ofKey e.1) e.2

/-- What may stand in a layer: the table of a section, in which no two keys are the same in lower case; a
value for a leaf; and anything outside the sections, or below a name of which a section knows nothing. -/
inductive IsPlaced : KeyPath → Value → Prop
  | table {p : Section} {origin : Option Origin} {es : Entries Value} (mem : p ∈ Section.all)
      (once : (es.map fun e => lowercase e.1).Nodup) : IsPlaced ⟨p.name, []⟩ (.table origin es)
  | leaf {leaf : Leaf} {v : Value} (mem : leaf ∈ Leaf.all) : IsPlaced leaf.path v
  | outside {path : KeyPath} {v : Value} (apart : ∀ p ∈ Section.all, p.name ≠ path.head)
      (fits : ∀ s ∈ path.steps, s.Fits) : IsPlaced path v
  | unknown {p : Section} {key : String} {steps : List Step} {v : Value} (mem : p ∈ Section.all)
      (apart : ∀ leaf ∈ Leaf.all, leaf.part.name = p.name → leaf.setting.name ≠ key)
      (fits : ∀ s ∈ steps, s.Fits) : IsPlaced ⟨p.name, .child key :: steps⟩ v

/-- Everything in a layer has its place, and no leaf is given twice. -/
structure IsOrderly (layer : Entries Value) : Prop where
  placed : ∀ e ∈ layer, IsPlaced (KeyPath.ofKey e.1) e.2
  once : layer.Pairwise fun e e' => ∀ leaf ∈ Leaf.all,
    leaf.givenBy? (KeyPath.ofKey e.1) e.2 = none ∨ leaf.givenBy? (KeyPath.ofKey e'.1) e'.2 = none

variable {root v w : Value} {path : KeyPath} {layer : Entries Value}

/-- Tables of different sections are orderly, if no two keys in one of them are the same in lower case. -/
theorem isOrderly_of_tables
    (tables : ∀ e ∈ layer, ∃ p ∈ Section.all, ∃ origin es, KeyPath.ofKey e.1 = ⟨p.name, []⟩ ∧
      e.2 = .table origin es ∧ (es.map fun x => lowercase x.1).Nodup)
    (once : (layer.map fun e => KeyPath.ofKey e.1).Nodup) : IsOrderly layer := by
  refine ⟨fun e mem => ?_, (List.pairwise_map.mp once).imp_of_mem fun {e e'} mem mem' differ leaf _ => ?_⟩
  · obtain ⟨p, there, origin, es, path, value, once'⟩ := tables e mem
    rw [path, value]
    exact .table there once'
  · -- a table gives something only for the leaves of its own section
    have own : ∀ e ∈ layer, KeyPath.ofKey e.1 ≠ ⟨leaf.part.name, []⟩ →
        leaf.givenBy? (KeyPath.ofKey e.1) e.2 = none := fun e mem other => by
      obtain ⟨p, -, -, -, path, -⟩ := tables e mem
      rw [Leaf.givenBy?, if_neg other, if_neg (by simp [path, Leaf.path])]
    by_cases here : KeyPath.ofKey e.1 = ⟨leaf.part.name, []⟩
    · exact .inr (own e' mem' fun there => differ (here.trans there.symm))
    · exact .inl (own e mem here)

theorem isSectioned_empty : IsSectioned (.table none []) :=
  ⟨Value.isKeyed_empty, nofun⟩

theorem Leaf.find?_setKey (leaf : Leaf) (root : Value) (key : String) (w : Value) :
    leaf.find? (root.setKey key w) =
      if leaf.part.name = key then w.entries.lookup leaf.setting.name else leaf.find? root := by
  unfold find?
  rw [Value.lookup_setKey]
  split <;> rfl

theorem Leaf.inLayer?_cons (leaf : Leaf) (e : String × Value) (rest : Entries Value) :
    leaf.inLayer? (e :: rest) = (leaf.givenBy? (KeyPath.ofKey e.1) e.2).or (leaf.inLayer? rest) := by
  rw [inLayer?, List.findSome?_cons]
  cases leaf.givenBy? (KeyPath.ofKey e.1) e.2 <;> rfl

namespace IsSectioned

/-- A key is set, to a table if it is a section. -/
theorem setKey (h : IsSectioned root) (key : String) (keyed : ∀ p ∈ Section.all, p.name = key → w.IsKeyed) :
    IsSectioned (root.setKey key w) := by
  refine ⟨Value.isKeyed_setKey h.keyed.once key w, fun p mem v found => ?_⟩
  rw [Value.lookup_setKey] at found
  split at found
  · next same =>
    obtain rfl := Option.some.inj found
    exact keyed p mem same
  · exact h.parts p mem v found

/-- The keys of a section are there once each, whether the section is there or not. -/
theorem once_part (h : IsSectioned root) {p : Section} (mem : p ∈ Section.all) :
    ((((root.entries.lookup p.name).getD .nil).entries).map (·.1)).Nodup := by
  cases found : root.entries.lookup p.name with
  | none => exact List.nodup_nil
  | some v => exact (h.parts p mem v found).once

theorem lookup_part (root : Value) {leaf : Leaf} {name : String} (here : leaf.part.name = name)
    {blank : Value} (empty : blank.entries = []) :
    ((root.entries.lookup name).getD blank).entries.lookup leaf.setting.name = leaf.find? root := by
  subst here
  unfold Leaf.find?
  cases root.entries.lookup leaf.part.name with
  | none =>
    rw [Option.getD_none, empty]
    rfl
  | some v => rfl

/-- What is given as the table of a section is given for the leaves of this section. -/
theorem assign_table (h : IsSectioned root) {p : Section} (mem : p ∈ Section.all) {origin : Option Origin}
    {es : Entries Value} (once : (es.map fun e => lowercase e.1).Nodup) :
    ∃ root', root.assign ⟨p.name, []⟩ (.table origin es) = .ok root' ∧ IsSectioned root' ∧
      ∀ leaf : Leaf, leaf.find? root' =
        Value.updated (leaf.givenBy? ⟨p.name, []⟩ (.table origin es)) (leaf.find? root) := by
  let held := (root.entries.lookup p.name).getD (.table none [])
  have keyed : held.IsKeyed := by
    cases found : root.entries.lookup p.name with
    | none =>
      simp only [held, found]
      exact Value.isKeyed_empty
    | some v =>
      simp only [held, found]
      exact h.parts p mem v found
  refine ⟨root.setKey p.name (held.merge es), congrArg Except.ok (Value.put_eq ..),
    h.setKey p.name fun _ _ _ => keyed.merge es, fun leaf => ?_⟩
  rw [Leaf.find?_setKey]
  by_cases here : leaf.part.name = p.name
  · have before : held.entries.lookup leaf.setting.name = leaf.find? root := lookup_part root here rfl
    rw [if_pos here, Value.lookup_merge once, before, Leaf.givenBy?, if_pos (by rw [here])]
    rfl
  · have nothing : leaf.givenBy? ⟨p.name, []⟩ (.table origin es) = none := by
      simp [Leaf.givenBy?, Leaf.path, Ne.symm here]
    rw [if_neg here, nothing]
    rfl

/-- What is given for a leaf is given for no other leaf. -/
theorem assign_leaf (h : IsSectioned root) {leaf : Leaf} (mem : leaf ∈ Leaf.all) (v : Value) :
    ∃ root', root.assign leaf.path v = .ok root' ∧ IsSectioned root' ∧
      ∀ other : Leaf, other.find? root' = Value.updated (other.givenBy? leaf.path v) (other.find? root) := by
  obtain ⟨there, -⟩ := Leaf.mem_all_iff.mp mem
  let held := (root.entries.lookup leaf.part.name).getD .nil
  refine ⟨root.setKey leaf.part.name (held.put leaf.setting.name v), rfl,
    h.setKey _ fun _ _ _ => ?_, fun other => ?_⟩
  · rw [Value.put_eq]
    exact Value.isKeyed_setKey (h.once_part there) _ _
  · rw [Leaf.find?_setKey]
    by_cases here : other.part.name = leaf.part.name
    · have before : held.entries.lookup other.setting.name = other.find? root := lookup_part root here rfl
      rw [if_pos here, Value.put_eq, Value.lookup_setKey, before]
      by_cases same : other.setting.name = leaf.setting.name
      · rw [if_pos same, ← same, before]
        simp [Leaf.givenBy?, Leaf.path, here, same, Value.updated]
      · rw [if_neg same]
        simp [Leaf.givenBy?, Leaf.path, Ne.symm same, Value.updated]
    · rw [if_neg here]
      simp [Leaf.givenBy?, Leaf.path, Ne.symm here, Value.updated]

/-- **One path.** A value that has its place can be set, and each leaf holds what it gives for it, or what
it held before. -/
theorem assign (h : IsSectioned root) (placed : IsPlaced path v) :
    ∃ root', root.assign path v = .ok root' ∧ IsSectioned root' ∧
      ∀ leaf ∈ Leaf.all, leaf.find? root' = Value.updated (leaf.givenBy? path v) (leaf.find? root) := by
  cases placed with
  | table mem once =>
    obtain ⟨root', ok, sectioned, holds⟩ := h.assign_table mem once
    exact ⟨root', ok, sectioned, fun leaf _ => holds leaf⟩
  | leaf mem =>
    obtain ⟨root', ok, sectioned, holds⟩ := h.assign_leaf mem v
    exact ⟨root', ok, sectioned, fun leaf _ => holds leaf⟩
  | outside apart fits =>
    obtain ⟨w, ok⟩ := Value.assignAt_child v root path.head path.steps fits
    refine ⟨_, ok, h.setKey path.head fun p mem same => absurd same (apart p mem), fun leaf mem => ?_⟩
    obtain ⟨there, -⟩ := Leaf.mem_all_iff.mp mem
    have other := apart leaf.part there
    have nothing : leaf.givenBy? path v = none := by
      rw [Leaf.givenBy?, if_neg (by rintro rfl; exact other rfl), if_neg (by rintro rfl; exact other rfl)]
    rw [Leaf.find?_setKey, if_neg other, nothing]
    rfl
  | @unknown p key steps v mem apart fits =>
    let held := (root.entries.lookup p.name).getD .nil
    obtain ⟨w, inner⟩ := Value.assignAt_child v held key steps fits
    refine ⟨root.setKey p.name (held.setKey key w), ?_, ?_, fun leaf mem' => ?_⟩
    · simp only [Value.assign, Value.assignAt, Value.child, bind, Except.bind]
      rw [inner]
    · exact h.setKey _ fun _ _ _ => Value.isKeyed_setKey (h.once_part mem) _ _
    · rw [Leaf.find?_setKey]
      by_cases here : leaf.part.name = p.name
      · have other := apart leaf mem' here
        have nothing : leaf.givenBy? ⟨p.name, .child key :: steps⟩ v = none := by
          simp [Leaf.givenBy?, Leaf.path, Ne.symm other]
        rw [if_pos here, Value.lookup_setKey, if_neg other, nothing]
        exact lookup_part root here rfl
      · have nothing : leaf.givenBy? ⟨p.name, .child key :: steps⟩ v = none := by
          simp [Leaf.givenBy?, Leaf.path, Ne.symm here]
        rw [if_neg here, nothing]
        rfl

/-- **A layer.** An orderly layer can be laid over what is given so far, and each leaf holds what the layer
gives for it, or what it held before. -/
theorem overlay (h : IsSectioned root) (orderly : IsOrderly layer) :
    ∃ root', root.overlay layer = .ok root' ∧ IsSectioned root' ∧
      ∀ leaf ∈ Leaf.all, leaf.find? root' = Value.updated (leaf.inLayer? layer) (leaf.find? root) := by
  induction layer generalizing root with
  | nil => exact ⟨root, rfl, h, fun _ _ => rfl⟩
  | cons e rest ih =>
    obtain ⟨first, once⟩ := List.pairwise_cons.mp orderly.once
    obtain ⟨root₁, ok, sectioned, holds⟩ := h.assign (orderly.placed e (List.mem_cons_self ..))
    obtain ⟨root', ok', sectioned', holds'⟩ :=
      ih sectioned ⟨fun e' mem => orderly.placed e' (List.mem_cons_of_mem _ mem), once⟩
    refine ⟨root', ?_, sectioned', fun leaf mem => ?_⟩
    · simp only [Value.overlay, List.foldlM_cons, bind, Except.bind, ok]
      exact ok'
    · rw [holds' leaf mem, holds leaf mem, Leaf.inLayer?_cons]
      cases given : leaf.givenBy? (KeyPath.ofKey e.1) e.2 with
      | none => rfl
      | some w =>
        have nothing : leaf.inLayer? rest = none := by
          refine List.findSome?_eq_none_iff.mpr fun e' mem' => ?_
          exact (first e' mem' leaf mem).resolve_left (by simp [given])
        rw [nothing]
        rfl

end IsSectioned

end Config

end FramePipeline
