import FramePipeline.Proofs.Config.Loading

/-!
# One leaf in any layers

What a file and the environment give for one leaf can be followed through all layers, whatever else stands in
them: entries of other sections, entries below other names, even entries that make a list of a section that is
a table elsewhere. If one entry of a layer sets the leaf and all others spare it, then this entry counts.

Main definitions: `Config.Leaf.OtherEntry` and `Config.Leaf.SettingEntry` (what an entry does to a leaf),
`Config.Leaf.GivenBy` (a layer gives a leaf once), `Config.Leaf.SetAlone` and `Config.Leaf.Unset` (the same
for variables), `Config.IsTidy` (no key twice). Main statements: `Value.assign_cases`,
`Config.Leaf.find?_overlay_of_given`, `Config.Leaf.convert_of_load`.
-/

namespace FramePipeline

open FramePipeline.Text (lowercase)

/-! ## Setting one path -/

namespace Value

variable {root root' v w : Value} {path : KeyPath} {key : String} {es : Entries Value}

theorem isArray_item {i : Int} {f : Value → Except Overload Value} (ok : root.item i f = .ok w) :
    ∃ origin vs, w = .array origin vs := by
  simp only [item, bind, Except.bind] at ok
  split at ok
  · cases ok
  · split at ok
    · cases ok
    · split at ok <;> exact ⟨_, _, (Except.ok.inj ok).symm⟩

/-- **One path.** Setting a path changes its first key: to the value itself, laid over what was there; to what
was there, with another value under one key; or to a list. -/
theorem assign_cases (ok : root.assign path v = .ok root') :
    (path.steps = [] ∧ root' = root.setKey path.head (v.onto (root.entries.lookup path.head))) ∨
      (∃ key rest w, path.steps = .child key :: rest ∧
        root' = root.setKey path.head (((root.entries.lookup path.head).getD .nil).setKey key w) ∧
        (rest = [] → w = v.onto (((root.entries.lookup path.head).getD .nil).entries.lookup key))) ∨
      ∃ i rest origin vs, path.steps = .item i :: rest ∧
        root' = root.setKey path.head (.array origin vs) := by
  obtain ⟨head, steps⟩ := path
  cases steps with
  | nil => exact .inl ⟨rfl, (Except.ok.inj ok).symm.trans (put_eq root head v)⟩
  | cons next rest =>
    simp only [assign, assignAt, child, bind, Except.bind] at ok
    split at ok
    · cases ok
    · next inner below =>
      have set := (Except.ok.inj ok).symm
      cases next with
      | child key =>
        refine .inr (.inl ?_)
        cases rest with
        | nil =>
          have put : inner = _ := (Except.ok.inj below).symm.trans (put_eq _ key v)
          exact ⟨key, [], _, rfl, set.trans (by rw [put]), fun _ => rfl⟩
        | cons next' rest' =>
          have below : Value.assign _ ⟨key, next' :: rest'⟩ v = .ok inner := below
          obtain ⟨w, rfl⟩ := Config.exists_setKey below
          exact ⟨key, next' :: rest', w, rfl, set, fun none => absurd none (List.cons_ne_nil _ _)⟩
      | item i =>
        have isArray : ∃ origin vs, inner = .array origin vs := by
          cases rest with
          | nil => exact isArray_item below
          | cons => exact isArray_item below
        obtain ⟨origin, vs, rfl⟩ := isArray
        exact .inr (.inr ⟨i, rest, origin, vs, rfl, set⟩)

theorem merge_append (target : Value) (es es' : Entries Value) :
    target.merge (es ++ es') = (target.merge es).merge es' := by
  induction es generalizing target with
  | nil =>
    rw [List.nil_append, merge]
  | cons e rest ih =>
    obtain ⟨key, v⟩ := e
    rw [List.cons_append, merge, merge, ih]

/-- What is not among the merged keys is as before. -/
theorem lookup_merge_of_absent (absent : ∀ e ∈ es, lowercase e.1 ≠ key) (target : Value) :
    (target.merge es).entries.lookup key = target.entries.lookup key := by
  induction es generalizing target with
  | nil => rw [merge]
  | cons e rest ih =>
    obtain ⟨k, v⟩ := e
    have differs := absent _ (List.mem_cons_self ..)
    rw [merge, put_eq, ih fun e' mem => absent e' (List.mem_cons_of_mem _ mem), lookup_setKey,
      if_neg (Ne.symm differs)]

theorem once_merge {target : Value} (once : (target.entries.map (·.1)).Nodup) (es : Entries Value) :
    ((target.merge es).entries.map (·.1)).Nodup := by
  induction es generalizing target with
  | nil =>
    rw [merge]
    exact once
  | cons e rest ih =>
    obtain ⟨k, v⟩ := e
    rw [merge, put_eq]
    exact ih (isKeyed_setKey once _ _).once

theorem once_onto {old : Option Value} (once : ((old.getD .nil).entries.map (·.1)).Nodup) (v : Value) :
    ((v.onto old).entries.map (·.1)).Nodup := by
  cases v with
  | scalar => exact List.nodup_nil
  | array => exact List.nodup_nil
  | table origin es =>
    refine once_merge ?_ es
    cases old with
    | none => exact List.nodup_nil
    | some => exact once

end Value

/-! ## The layer of the environment -/

/-- With each key once, every entry is the one that a look-up finds. -/
theorem Entries.lookup_of_mem {α : Type} {es : Entries α} (once : (es.map (·.1)).Nodup) {e : String × α}
    (mem : e ∈ es) : es.lookup e.1 = some e.2 := by
  obtain ⟨before, after, rfl⟩ := List.append_of_mem mem
  refine List.lookup_eq_some_iff.mpr ⟨before, after, rfl, fun earlier there => ?_⟩
  rw [List.map_append, List.nodup_append] at once
  have differs := once.2.2 _ (List.mem_map_of_mem there) e.1 (List.mem_cons_self ..)
  simpa using Ne.symm differs

namespace Environment

attribute [local irreducible] key?

theorem layer_concat (vars : Entries String) (v : String × String) :
    layer (vars ++ [v]) =
      (key? v.1).elim (layer vars) fun key => Entries.put key (given v.2) (layer vars) := by
  simp only [layer, List.foldl_append, List.foldl_cons, List.foldl_nil, given]
  cases key? v.1 <;> rfl

theorem once_layer (vars : Entries String) : ((layer vars).map (·.1)).Nodup := by
  induction vars using List.reverseRecOn with
  | nil => exact List.nodup_nil
  | append_singleton rest v ih =>
    rw [layer_concat]
    cases key? v.1 with
    | none => exact ih
    | some key => exact Entries.nodup_put ih key _

/-- Of the variables that set a key the last one counts. -/
theorem lookup_layer (vars : Entries String) (key : String) :
    (layer vars).lookup key = (vars.reverse.find? fun v => key? v.1 = some key).map fun v => given v.2 := by
  induction vars using List.reverseRecOn with
  | nil => rfl
  | append_singleton rest v ih =>
    rw [layer_concat, List.reverse_append, List.reverse_singleton, List.singleton_append, List.find?_cons]
    cases is : key? v.1 with
    | none => simpa using ih
    | some k =>
      rw [Option.elim_some, Entries.lookup_put]
      by_cases same : key = k
      · simp [same]
      · simpa [same, Ne.symm same] using ih

/-- An entry of the layer comes from a variable. -/
theorem mem_layer {vars : Entries String} {e : String × Value} (mem : e ∈ layer vars) :
    ∃ v ∈ vars, key? v.1 = some e.1 ∧ e.2 = given v.2 := by
  have found := Entries.lookup_of_mem (once_layer vars) mem
  rw [lookup_layer] at found
  obtain ⟨v, there, value⟩ := Option.map_eq_some_iff.mp found
  refine ⟨v, List.mem_reverse.mp (List.mem_of_find?_eq_some there), ?_, value.symm⟩
  simpa using List.find?_some there

theorem path?_of_key? {name key : String} (is : key? name = some key) :
    path? name = some (KeyPath.ofKey key) := by
  rw [path?, is, Option.map_some]

end Environment

namespace Config

open Environment (path?)

attribute [local irreducible] Environment.key? KeyPath.ofKey

variable {root root' v w : Value} {path : KeyPath} {layer : Entries Value} {leaf : Leaf}

/-! ## Tidy trees -/

/-- The tree is a table in which no key stands twice, and nor does one in any table in it. -/
structure IsTidy (root : Value) : Prop where
  keyed : root.IsKeyed
  parts : ∀ key v, root.entries.lookup key = some v → (v.entries.map (·.1)).Nodup

theorem isTidy_empty : IsTidy (.table none []) :=
  ⟨Value.isKeyed_empty, nofun⟩

namespace IsTidy

theorem once_part (h : IsTidy root) (key : String) :
    (((root.entries.lookup key).getD .nil).entries.map (·.1)).Nodup := by
  cases found : root.entries.lookup key with
  | none => exact List.nodup_nil
  | some v => exact h.parts key v found

theorem setKey (h : IsTidy root) (key : String) (once : (w.entries.map (·.1)).Nodup) :
    IsTidy (root.setKey key w) := by
  refine ⟨Value.isKeyed_setKey h.keyed.once key w, fun other v found => ?_⟩
  rw [Value.lookup_setKey] at found
  split at found
  · exact Option.some.inj found ▸ once
  · exact h.parts other v found

/-- No path makes a tree untidy. -/
theorem assign (h : IsTidy root) (ok : root.assign path v = .ok root') : IsTidy root' := by
  have once := h.once_part path.head
  rcases Value.assign_cases ok with ⟨-, rfl⟩ | ⟨key, rest, w, -, rfl, -⟩ | ⟨i, rest, origin, vs, -, rfl⟩
  · exact h.setKey _ (Value.once_onto once v)
  · exact h.setKey _ (Value.isKeyed_setKey once key w).once
  · exact h.setKey _ List.nodup_nil

end IsTidy

/-- A leaf is converted from the value at its place, if there is one. -/
theorem IsTidy.convert_of_find? (h : IsTidy root) {config : Config}
    (ok : Schema.config.convert root = .ok config)
    (mem : leaf ∈ Leaf.all) (found : leaf.find? root = some w) :
    leaf.setting.kind.convert w = .ok (leaf.get config) := by
  obtain ⟨part, listed⟩ := Leaf.mem_all_iff.mp mem
  obtain ⟨v, there, value⟩ := Option.bind_eq_some_iff.mp found
  obtain ⟨origin, eq⟩ := h.keyed.isTable
  have converts : Schema.config.convertEntries root.entries {} = .ok config := by
    rw [← ok]
    exact (congrArg Schema.config.convert eq).symm
  obtain ⟨config', ok', all⟩ | ⟨⟨fault, failed⟩, -⟩ :=
    Section.settingsInv_all.convertEntries_cases h.keyed.once {}
  · obtain rfl := Except.ok.inj (ok'.symm.trans converts)
    have given := all leaf.part.setting (List.mem_map_of_mem part)
    rw [show root.entries.lookup leaf.part.setting.name = some v from there] at given
    have isKeyed : v.IsKeyed := by
      refine ⟨?_, h.parts _ v there⟩
      cases v with
      | table origin es => exact ⟨origin, rfl⟩
      | scalar => cases value
      | array => cases value
    obtain ⟨s, ok, all⟩ | ⟨⟨fault, failed⟩, -⟩ := Section.convert_cases part isKeyed
    · obtain rfl : s = leaf.part.get config' := Except.ok.inj (ok.symm.trans given)
      have converted := all leaf.setting listed
      rw [value] at converted
      exact converted
    · cases failed.symm.trans given
  · cases failed.symm.trans converts

/-! ## What an entry does to a leaf -/

namespace Leaf

/-- The entry is nothing to the leaf: it begins with another key, goes on with another name, or is a table
without this name. -/
inductive OtherEntry (leaf : Leaf) : KeyPath → Value → Prop
  | elsewhere {path : KeyPath} {v : Value} (apart : path.head ≠ leaf.part.name) : OtherEntry leaf path v
  | beside {key : String} {rest : List Step} {v : Value} (apart : key ≠ leaf.setting.name) :
      OtherEntry leaf ⟨leaf.part.name, .child key :: rest⟩ v
  | without {origin : Option Origin} {es : Entries Value}
      (absent : ∀ e ∈ es, lowercase e.1 ≠ leaf.setting.name) :
      OtherEntry leaf ⟨leaf.part.name, []⟩ (.table origin es)

/-- The entry sets the leaf to a value: by its path, or as the table of its section with the name of the leaf
once among its keys. -/
inductive SettingEntry (leaf : Leaf) (w : Value) : KeyPath → Value → Prop
  | path : SettingEntry leaf w leaf.path w
  | table {origin : Option Origin} {before after : Entries Value} {key : String}
      (is : lowercase key = leaf.setting.name)
      (absent : ∀ e ∈ before ++ after, lowercase e.1 ≠ leaf.setting.name) :
      SettingEntry leaf w ⟨leaf.part.name, []⟩ (.table origin (before ++ (key, w) :: after))

theorem not_otherEntry_path (leaf : Leaf) (v : Value) : ¬ leaf.OtherEntry leaf.path v := by
  intro spares
  generalize is : leaf.path = path at spares
  cases spares with
  | elsewhere apart =>
    subst is
    exact apart rfl
  | beside apart =>
    simp only [path, KeyPath.mk.injEq, List.cons.injEq, Step.child.injEq] at is
    exact apart is.2.1.symm
  | without absent => simp [path] at is

/-- The path of another leaf spares this one. -/
theorem otherEntry_other {other : Leaf} (apart : other.path ≠ leaf.path) (v : Value) :
    leaf.OtherEntry other.path v := by
  by_cases same : other.part.name = leaf.part.name
  · have differ : other.setting.name ≠ leaf.setting.name := fun is => apart (by rw [path, path, same, is])
    rw [path, same]
    exact .beside differ
  · exact .elsewhere same

theorem find?_assign_of_otherEntry (spares : leaf.OtherEntry path v) (ok : root.assign path v = .ok root') :
    leaf.find? root' = leaf.find? root := by
  have set := Value.assign_cases ok
  cases spares with
  | elsewhere apart =>
    rcases set with ⟨-, rfl⟩ | ⟨_, _, _, -, rfl, -⟩ | ⟨_, _, _, _, -, rfl⟩ <;>
      rw [find?_setKey, if_neg (Ne.symm apart)]
  | beside apart =>
    rcases set with ⟨steps, -⟩ | ⟨_, _, w, steps, rfl, -⟩ | ⟨_, _, _, _, steps, -⟩
    · cases steps
    · obtain ⟨rfl, rfl⟩ : _ ∧ _ := by simpa using steps
      rw [find?_setKey, if_pos rfl, Value.lookup_setKey, if_neg (Ne.symm apart)]
      exact IsSectioned.lookup_part root rfl rfl
    · cases steps
  | without absent =>
    rcases set with ⟨-, rfl⟩ | ⟨_, _, _, steps, -⟩ | ⟨_, _, _, _, steps, -⟩
    · rw [find?_setKey, if_pos rfl, Value.onto, Value.lookup_merge_of_absent absent]
      exact IsSectioned.lookup_part root rfl rfl
    · cases steps
    · cases steps

theorem find?_assign_of_settingEntry (sets : leaf.SettingEntry w path v)
    (ok : root.assign path v = .ok root') :
    leaf.find? root' = some (w.onto (leaf.find? root)) := by
  have set := Value.assign_cases ok
  cases sets with
  | path =>
    rcases set with ⟨steps, -⟩ | ⟨_, _, w', steps, rfl, last⟩ | ⟨_, _, _, _, steps, -⟩
    · cases steps
    · obtain ⟨rfl, rfl⟩ : leaf.setting.name = _ ∧ _ := by simpa [Leaf.path] using steps
      have head : leaf.part.name = leaf.path.head := rfl
      rw [find?_setKey, if_pos head, Value.lookup_setKey, if_pos rfl, last rfl]
      exact congrArg (fun old => some (v.onto old)) (IsSectioned.lookup_part root rfl rfl)
    · cases steps
  | @table origin before after key is absent =>
    rcases set with ⟨-, rfl⟩ | ⟨_, _, _, steps, -⟩ | ⟨_, _, _, _, steps, -⟩
    · have behind := fun e mem => absent e (List.mem_append_right before mem)
      have ahead := fun e mem => absent e (List.mem_append_left after mem)
      rw [find?_setKey, if_pos rfl, Value.onto, Value.merge_append, Value.merge, is,
        Value.lookup_merge_of_absent behind, Value.put_eq, Value.lookup_setKey, if_pos rfl,
        Value.lookup_merge_of_absent ahead]
      exact congrArg (fun old => some (w.onto old)) (IsSectioned.lookup_part root rfl rfl)
    · cases steps
    · cases steps

/-! ## Layers -/

/-- One entry of the layer sets the leaf to a value, and all others spare it. -/
def GivenBy (leaf : Leaf) (w : Value) (layer : Entries Value) : Prop :=
  ∃ before e after, layer = before ++ e :: after ∧ leaf.SettingEntry w (KeyPath.ofKey e.1) e.2 ∧
    ∀ e' ∈ before ++ after, leaf.OtherEntry (KeyPath.ofKey e'.1) e'.2

/-- All entries of the layer spare the leaf. -/
def AbsentFrom (leaf : Leaf) (layer : Entries Value) : Prop :=
  ∀ e ∈ layer, leaf.OtherEntry (KeyPath.ofKey e.1) e.2

theorem find?_overlay_of_absent (absent : leaf.AbsentFrom layer) (ok : root.overlay layer = .ok root') :
    leaf.find? root' = leaf.find? root := by
  induction layer generalizing root with
  | nil =>
    obtain rfl := Except.ok.inj ok
    rfl
  | cons e rest ih =>
    simp only [Value.overlay, List.foldlM_cons, bind, Except.bind] at ok
    split at ok
    · cases ok
    · next root₁ first =>
      obtain ⟨spares, others⟩ := List.forall_mem_cons.mp absent
      rw [ih others ok, find?_assign_of_otherEntry spares first]

/-- **What a layer gives.** The entry that sets a leaf counts, wherever it stands in the layer. -/
theorem find?_overlay_of_given (given : leaf.GivenBy w layer) (ok : root.overlay layer = .ok root') :
    leaf.find? root' = some (w.onto (leaf.find? root)) := by
  obtain ⟨before, e, after, rfl, sets, others⟩ := given
  obtain ⟨ahead, behind⟩ := List.forall_mem_append.mp others
  simp only [Value.overlay, List.foldlM_append, List.foldlM_cons, bind, Except.bind] at ok
  split at ok
  · cases ok
  · next root₁ first =>
    split at ok
    · cases ok
    · next root₂ set =>
      rw [find?_overlay_of_absent behind ok, find?_assign_of_settingEntry sets set,
        find?_overlay_of_absent ahead first]

end Leaf

theorem IsTidy.overlay (h : IsTidy root) (ok : root.overlay layer = .ok root') : IsTidy root' := by
  induction layer generalizing root with
  | nil =>
    obtain rfl := Except.ok.inj ok
    exact h
  | cons e rest ih =>
    simp only [Value.overlay, List.foldlM_cons, bind, Except.bind] at ok
    split at ok
    · cases ok
    · next root₁ first => exact ih (h.assign first) ok

/-! ## Variables -/

namespace Leaf

variable {vars : Entries String} {text : String}

/-- One variable sets the leaf to a text, and all others spare it. -/
def SetAlone (leaf : Leaf) (text : String) (vars : Entries String) : Prop :=
  ∃ name, (name, text) ∈ vars ∧ path? name = some leaf.path ∧
    ∀ v ∈ vars, v ≠ (name, text) → ∀ path, path? v.1 = some path →
      leaf.OtherEntry path (Environment.given v.2)

/-- All variables spare the leaf. -/
def Unset (leaf : Leaf) (vars : Entries String) : Prop :=
  ∀ v ∈ vars, ∀ path, path? v.1 = some path → leaf.OtherEntry path (Environment.given v.2)

end Leaf

namespace Leaf

variable {vars : Entries String} {text : String}

theorem absentFrom_layer (unset : leaf.Unset vars) : leaf.AbsentFrom (Environment.layer vars) := by
  intro e mem
  obtain ⟨v, there, key, value⟩ := Environment.mem_layer mem
  rw [value]
  exact unset v there _ (Environment.path?_of_key? key)

theorem givenBy_layer (alone : leaf.SetAlone text vars) :
    leaf.GivenBy (Environment.given text) (Environment.layer vars) := by
  obtain ⟨name, mem, is, others⟩ := alone
  obtain ⟨key, named, path_eq⟩ := Option.map_eq_some_iff.mp is
  -- no other variable sets the same key
  have only : ∀ v ∈ vars, Environment.key? v.1 = some key → v = (name, text) := by
    intro v there same
    by_contra differ
    exact leaf.not_otherEntry_path _ (others v there differ _ (path_eq ▸ Environment.path?_of_key? same))
  have found : (Environment.layer vars).lookup key = some (Environment.given text) := by
    rw [Environment.lookup_layer]
    cases first : vars.reverse.find? fun v => Environment.key? v.1 = some key with
    | none =>
      have missed := List.find?_eq_none.mp first _ (List.mem_reverse.mpr mem)
      exact absurd (decide_eq_true named) missed
    | some v =>
      have same : Environment.key? v.1 = some key := by simpa using List.find?_some first
      rw [only v (List.mem_reverse.mp (List.mem_of_find?_eq_some first)) same, Option.map_some]
  obtain ⟨before, after, eq, -⟩ := List.lookup_eq_some_iff.mp found
  refine ⟨before, _, after, eq, path_eq ▸ .path, fun e mem' => ?_⟩
  have once := Environment.once_layer vars
  have there : e ∈ Environment.layer vars := by
    rw [eq]
    rcases List.mem_append.mp mem' with ahead | behind
    · exact List.mem_append_left _ ahead
    · exact List.mem_append_right _ (List.mem_cons_of_mem _ behind)
  have differs : e.1 ≠ key := by
    rw [eq, List.map_append, List.map_cons, List.nodup_middle] at once
    rw [← List.map_append] at once
    exact fun same => (List.nodup_cons.mp once).1 (List.mem_map.mpr ⟨e, mem', same⟩)
  obtain ⟨v, mem'', key', value⟩ := Environment.mem_layer there
  rw [value]
  refine others v mem'' (fun same => differs ?_) _ (Environment.path?_of_key? key')
  subst same
  exact Option.some.inj (key'.symm.trans named)

/-! ## Main statement -/

variable {contents : String → Option ByteArray} {path : Option String} {file : Entries Value}
    {config : Config}

/-- Loading lays the file and then the environment over nothing, and converts what results. -/
theorem exists_overlays (loaded : load contents path vars = .ok config) :
    ∃ file root₁ root₂, fileLayer contents path = .ok file ∧
      (Value.table none []).overlay file = .ok root₁ ∧ root₁.overlay (Environment.layer vars) = .ok root₂ ∧
      Schema.config.convert root₂ = .ok config := by
  cases read : fileLayer contents path with
  | error error =>
    cases path with
    | none => cases read
    | some name =>
      have read : ConfigFile.layer contents name = .error error := read
      simp only [load, read, bind, Except.bind] at loaded
      cases loaded
  | ok file =>
    rw [load_of_read read] at loaded
    cases first : (Value.table none []).overlay file with
    | error overload =>
      simp only [ofLayers, List.foldlM_cons, bind, Except.bind, first, Except.mapError] at loaded
      cases loaded
    | ok root₁ =>
      cases second : root₁.overlay (Environment.layer vars) with
      | error overload =>
        simp only [ofLayers, List.foldlM_cons, bind, Except.bind, first, second, Except.mapError] at loaded
        cases loaded
      | ok root₂ =>
        rw [ofLayers_pair first second] at loaded
        refine ⟨file, root₁, root₂, rfl, first, second, ?_⟩
        cases converted : Schema.config.convert root₂ with
        | error fault =>
          rw [converted] at loaded
          cases loaded
        | ok config' =>
          rw [converted] at loaded
          exact congrArg Except.ok (Except.ok.inj loaded)

/-- **One leaf through all layers.** In a configuration that is loaded, a leaf that one variable sets is what
its text converts to; and a leaf that no variable sets is what the file gives for it converts to. -/
theorem convert_of_load (loaded : load contents path vars = .ok config) (mem : leaf ∈ all) :
    (∀ text, leaf.SetAlone text vars →
      leaf.setting.kind.convert (Environment.given text) = .ok (leaf.get config)) ∧
    ∀ file w, fileLayer contents path = .ok file → leaf.GivenBy w file → leaf.Unset vars →
      leaf.setting.kind.convert (w.onto none) = .ok (leaf.get config) := by
  obtain ⟨file, root₁, root₂, read, first, second, converted⟩ := exists_overlays loaded
  have tidy : IsTidy root₂ := (isTidy_empty.overlay first).overlay second
  refine ⟨fun text alone => ?_, fun file' w read' given unset => ?_⟩
  · exact tidy.convert_of_find? converted mem (find?_overlay_of_given (givenBy_layer alone) second)
  · obtain rfl := Except.ok.inj (read'.symm.trans read)
    refine tidy.convert_of_find? converted mem ?_
    rw [find?_overlay_of_absent (absentFrom_layer unset) second, find?_overlay_of_given given first]
    rfl

end Leaf

end Config

end FramePipeline
