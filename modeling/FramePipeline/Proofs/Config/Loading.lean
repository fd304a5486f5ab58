import Mathlib
import FramePipeline.Config.Load
import FramePipeline.Proofs.Config.VariableNames

/-!
# Loading leaf by leaf

A loaded configuration is decided leaf by leaf: each leaf is converted from its variable in the environment
if that is set, otherwise from the file if that gives it, and is the default otherwise. What is set for one
leaf matters for no other leaf, and a configuration is loaded exactly if the values of all leaves convert.

Main definitions: `Environment.IsOrderly`, `Config.Leaf.text?`, `Config.Leaf.given?`,
`Config.Leaf.effective`, `Config.Leaf.withoutKey` and `Config.Leaf.withoutVariable`
(files and environments but for one leaf). Main statement: `Config.load_leaves`.
-/

namespace FramePipeline

open FramePipeline.Text (lowercase)

namespace Environment

open Config (Section)

/-- The value of a variable, as a layer gives it. -/
def given (text : String) : Value :=
  .scalar (some .environment) (valueOf text)

/-- The entry of a variable in the layer of the environment. -/
def entryOf? (v : String × String) : Option (String × Value) :=
  (key? v.1).map fun key => (key, given v.2)

/-- A variable stands for a whole section. -/
def WholeSection (vars : Entries String) (p : Section) : Prop :=
  ∃ v ∈ vars, path? v.1 = some ⟨p.name, []⟩

/-- Every variable has its place or stands for a whole section, into which no other one reaches then; and
no two set the same path. -/
structure IsOrderly (vars : Entries String) : Prop where
  placed : ∀ v ∈ vars, ∀ path, path? v.1 = some path →
    Config.IsPlaced path (given v.2) ∨ ∃ p ∈ Section.all, path = ⟨p.name, []⟩
  whole : ∀ p ∈ Section.all, WholeSection vars p → ∀ v ∈ vars, ∀ path, path? v.1 = some path →
    path.head = p.name → path = ⟨p.name, []⟩
  once : ((vars.map (·.1)).filterMap path?).Nodup

/-! ## The layer of the environment -/

attribute [local irreducible] key? KeyPath.ofKey

theorem layer_eq_foldl (vars : Entries String) :
    layer vars = vars.foldl (fun es v => (entryOf? v).elim es fun e => Entries.put e.1 e.2 es) [] := by
  unfold layer
  congr 1
  funext es v
  simp only [entryOf?, given]
  cases key? v.1 <;> rfl

theorem layer_eq_of_once {vars : Entries String} (once : ((vars.map (·.1)).filterMap key?).Nodup) :
    layer vars = vars.filterMap entryOf? := by
  rw [layer_eq_foldl]
  suffices general : ∀ acc : Entries Value, (acc.map (·.1) ++ (vars.map (·.1)).filterMap key?).Nodup →
      vars.foldl (fun es v => (entryOf? v).elim es fun e => Entries.put e.1 e.2 es) acc =
        acc ++ vars.filterMap entryOf? from general [] once
  clear once
  induction vars with
  | nil => intro acc _; exact (List.append_nil acc).symm
  | cons v rest ih =>
    intro acc once
    cases key : key? v.1 with
    | none =>
      have skipped : entryOf? v = none := by rw [entryOf?, key, Option.map_none]
      rw [List.map_cons, List.filterMap_cons_none key] at once
      rw [List.foldl_cons, List.filterMap_cons_none skipped, skipped]
      exact ih acc once
    | some k =>
      have added : entryOf? v = some (k, given v.2) := by rw [entryOf?, key, Option.map_some]
      rw [List.map_cons, List.filterMap_cons_some key] at once
      have fresh : k ∉ acc.map (·.1) := fun mem =>
        (List.nodup_append.mp once).2.2 k mem k (List.mem_cons_self ..) rfl
      rw [List.foldl_cons, List.filterMap_cons_some added, added, Option.elim_some,
        Entries.put_of_not_mem fresh,
        ih (acc ++ [(k, given v.2)]) (by simpa using once), List.append_assoc, List.singleton_append]

variable {vars : Entries String}

theorem IsOrderly.once_keys (h : IsOrderly vars) : ((vars.map (·.1)).filterMap key?).Nodup := by
  have once := h.once
  have eq : (vars.map (·.1)).filterMap path? = ((vars.map (·.1)).filterMap key?).map KeyPath.ofKey := by
    rw [List.map_filterMap]
    rfl
  rw [eq] at once
  exact List.Pairwise.of_map KeyPath.ofKey (fun _ _ => mt (congrArg _)) once

theorem IsOrderly.layer_eq (h : IsOrderly vars) : layer vars = vars.filterMap entryOf? :=
  layer_eq_of_once h.once_keys

/-- No two variables set the same path. -/
theorem IsOrderly.pairwise (h : IsOrderly vars) :
    vars.Pairwise fun v w => ∀ path, path? v.1 = some path → path? w.1 ≠ some path := by
  have once := h.once
  rw [List.filterMap_map, List.Nodup, List.pairwise_filterMap] at once
  exact once.imp fun apart path is is' => apart path is path is' rfl

theorem IsOrderly.eq_of_path (h : IsOrderly vars) {v w : String × String} (mem : v ∈ vars) (mem' : w ∈ vars)
    {path : KeyPath} (is : path? v.1 = some path) (is' : path? w.1 = some path) : v = w := by
  by_contra differ
  have : Std.Symm fun v w : String × String => ∀ path, path? v.1 = some path → path? w.1 ≠ some path :=
    ⟨fun _ _ apart path is is' => apart path is' is⟩
  exact h.pairwise.forall mem mem' differ path is is'

/-- Variables of leaves have their places, if no two set the same path. -/
theorem isOrderly_of_leaves
    (leaves : ∀ v ∈ vars, ∀ path ∈ path? v.1, ∃ leaf ∈ Config.Leaf.all, path = leaf.path)
    (once : ((vars.map (·.1)).filterMap path?).Nodup) :
    IsOrderly vars ∧ ∀ p ∈ Section.all, ¬ WholeSection vars p := by
  have partly : ∀ p ∈ Section.all, ¬ WholeSection vars p := by
    rintro p - ⟨v, mem, whole⟩
    obtain ⟨leaf, -, eq⟩ := leaves v mem _ whole
    simp [Config.Leaf.path] at eq
  refine ⟨⟨fun v mem path set => ?_, fun p mem whole => absurd whole (partly p mem), once⟩, partly⟩
  obtain ⟨leaf, listed, rfl⟩ := leaves v mem path set
  exact .inl (.leaf listed)

/-- An entry of the layer comes from a variable. -/
theorem mem_entries {e : String × Value} (mem : e ∈ vars.filterMap entryOf?) :
    ∃ v ∈ vars, path? v.1 = some (KeyPath.ofKey e.1) ∧ e.2 = given v.2 := by
  obtain ⟨v, there, is⟩ := List.mem_filterMap.mp mem
  obtain ⟨key, found, rfl⟩ := Option.map_eq_some_iff.mp is
  exact ⟨v, there, by rw [path?, found, Option.map_some], rfl⟩

end Environment

namespace Config

open Environment (path?)

/-! ## Leaves -/

attribute [local irreducible] Environment.key? KeyPath.ofKey

namespace Leaf

/-- The text of the variable that sets a leaf. -/
def text? (leaf : Leaf) (vars : Entries String) : Option String :=
  (vars.find? fun v => path? v.1 = some leaf.path).map (·.2)

/-- The value that counts for a leaf: that of its variable, if it is set, otherwise what the file gives. -/
def given? (leaf : Leaf) (file : Entries Value) (vars : Entries String) : Option Value :=
  match leaf.text? vars with
  | some text => some (Environment.given text)
  | none => (leaf.inLayer? file).map (·.onto none)

/-- What the value that counts for a leaf converts to; without one, the leaf is as in the default
configuration. -/
def effective (leaf : Leaf) (file : Entries Value) (vars : Entries String) :
    Except Fault leaf.setting.α :=
  leaf.converted (leaf.given? file vars)

theorem givenBy?_given (leaf : Leaf) (path : KeyPath) (text : String) :
    leaf.givenBy? path (Environment.given text) =
      if path = leaf.path then some (Environment.given text) else none := by
  unfold givenBy?
  split
  · next whole =>
    rw [if_neg (by simp [whole, Leaf.path])]
    rfl
  · rfl

theorem inLayer?_entries (leaf : Leaf) (vars : Entries String) :
    leaf.inLayer? (vars.filterMap Environment.entryOf?) = (leaf.text? vars).map Environment.given := by
  induction vars with
  | nil => rfl
  | cons v rest ih =>
    cases key : Environment.key? v.1 with
    | none =>
      have skipped : Environment.entryOf? v = none := by rw [Environment.entryOf?, key, Option.map_none]
      rw [List.filterMap_cons_none skipped, ih]
      simp [text?, path?, key]
    | some k =>
      have added : Environment.entryOf? v = some (k, Environment.given v.2) := by
        rw [Environment.entryOf?, key, Option.map_some]
      rw [List.filterMap_cons_some added, inLayer?_cons, givenBy?_given, ih]
      by_cases same : KeyPath.ofKey k = leaf.path
      · simp [text?, path?, key, same]
      · simp [text?, path?, key, same]

/-- The variable with the name of a leaf sets this leaf. -/
theorem text?_eq_some {leaf : Leaf} {vars : Entries String} (orderly : Environment.IsOrderly vars)
    (mem : leaf ∈ all) {text : String} (set : (leaf.variableName, text) ∈ vars) :
    leaf.text? vars = some text := by
  have is := path?_variableName mem
  unfold text?
  cases found : vars.find? fun v => path? v.1 = some leaf.path with
  | none => exact absurd is (by simpa using List.find?_eq_none.mp found _ set)
  | some v =>
    have is' : path? v.1 = some leaf.path := by
      simpa using List.find?_some found
    obtain rfl := orderly.eq_of_path (List.mem_of_find?_eq_some found) set is' is
    rfl

end Leaf

/-! ## Layers of the environment -/

variable {vars : Entries String} {file : Entries Value} {root : Value} {p : Section}

theorem isOrderly_environment (h : Environment.IsOrderly vars)
    (partly : ∀ p ∈ Section.all, ¬ Environment.WholeSection vars p) : IsOrderly (Environment.layer vars) := by
  rw [h.layer_eq]
  refine ⟨fun e mem => ?_, ?_⟩
  · obtain ⟨v, there, path, value⟩ := Environment.mem_entries mem
    rw [value]
    obtain placed | ⟨p, is, whole⟩ := h.placed v there _ path
    · exact placed
    · exact absurd ⟨v, there, whole ▸ path⟩ (partly p is)
  · -- entries of different paths give different leaves
    have once : ((vars.filterMap Environment.entryOf?).map fun e => KeyPath.ofKey e.1).Nodup := by
      have eq : (vars.filterMap Environment.entryOf?).map (fun e => KeyPath.ofKey e.1) =
          (vars.map (·.1)).filterMap path? := by
        rw [List.map_filterMap, List.filterMap_map]
        congr 1
        funext v
        simp only [Environment.entryOf?, path?, Option.map_map, Function.comp_def]
      rw [eq]
      exact h.once
    refine (List.pairwise_map.mp once).imp_of_mem fun {e e'} mem mem' differ leaf _ => ?_
    obtain ⟨v, -, -, value⟩ := Environment.mem_entries mem
    obtain ⟨v', -, -, value'⟩ := Environment.mem_entries mem'
    rw [value, value', Leaf.givenBy?_given, Leaf.givenBy?_given]
    by_cases here : KeyPath.ofKey e.1 = leaf.path
    · exact .inr (if_neg fun there => differ (here.trans there.symm))
    · exact .inl (if_neg here)

/-! ## A section as a whole -/

/-- What a path sets is in its first key. -/
theorem exists_setKey {v root' : Value} {path : KeyPath} (ok : root.assign path v = .ok root') :
    ∃ w, root' = root.setKey path.head w := by
  obtain ⟨head, steps⟩ := path
  cases steps with
  | nil => exact ⟨_, (Except.ok.inj ok).symm.trans (Value.put_eq root head v)⟩
  | cons next rest =>
    simp only [Value.assign, Value.assignAt, Value.child, bind, Except.bind] at ok
    split at ok
    · cases ok
    · exact ⟨_, (Except.ok.inj ok).symm⟩

/-- A layer leaves keys alone with which none of its paths begins. -/
theorem overlay_elsewhere {layer : Entries Value} {root' : Value} (keyed : root.IsKeyed)
    (ok : root.overlay layer = .ok root') : root'.IsKeyed ∧
      ∀ key, (∀ e ∈ layer, (KeyPath.ofKey e.1).head ≠ key) →
        root'.entries.lookup key = root.entries.lookup key := by
  induction layer generalizing root with
  | nil =>
    obtain rfl := Except.ok.inj ok
    exact ⟨keyed, fun _ _ => rfl⟩
  | cons e rest ih =>
    simp only [Value.overlay, List.foldlM_cons, bind, Except.bind] at ok
    split at ok
    · cases ok
    · next root₁ first =>
      obtain ⟨w, rfl⟩ := exists_setKey first
      obtain ⟨keyed', same⟩ := ih (Value.isKeyed_setKey keyed.once _ _) ok
      refine ⟨keyed', fun key apart => ?_⟩
      rw [same key fun e' mem => apart e' (List.mem_cons_of_mem _ mem), Value.lookup_setKey,
        if_neg (Ne.symm (apart e (List.mem_cons_self ..)))]

/-- What stands for a whole section stays, if nothing behind it reaches into the section. -/
theorem overlay_whole {before after : Entries Value} {key name : String} {origin : Option Origin} {s : Scalar}
    {root' : Value} (keyed : root.IsKeyed) (is : KeyPath.ofKey key = ⟨name, []⟩)
    (behind : ∀ e ∈ after, (KeyPath.ofKey e.1).head ≠ name)
    (ok : root.overlay (before ++ (key, .scalar origin s) :: after) = .ok root') :
    root'.IsKeyed ∧ root'.entries.lookup name = some (.scalar origin s) := by
  simp only [Value.overlay, List.foldlM_append, List.foldlM_cons, bind, Except.bind] at ok
  split at ok
  · cases ok
  · next root₁ first =>
    obtain ⟨keyed₁, -⟩ := overlay_elsewhere keyed first
    rw [is] at ok
    split at ok
    · cases ok
    · next root₂ set =>
      have set : root₁.setKey name (.scalar origin s) = root₂ :=
        (Value.put_eq root₁ name _).symm.trans (Except.ok.inj set)
      subst set
      obtain ⟨keyed₂, same⟩ := overlay_elsewhere (Value.isKeyed_setKey keyed₁.once _ _) ok
      exact ⟨keyed₂, by rw [same name behind, Value.lookup_setKey, if_pos rfl]⟩

/-- A single value in the place of a section does not convert. -/
theorem convert_of_scalar (keyed : root.IsKeyed) (mem : p ∈ Section.all) {origin : Option Origin} {s : Scalar}
    (found : root.entries.lookup p.name = some (.scalar origin s)) :
    ∃ fault, Schema.config.convert root = .error fault := by
  obtain ⟨o, eq⟩ := keyed.isTable
  rw [eq]
  obtain ⟨c, -, all⟩ | ⟨failed, -⟩ := Section.settingsInv_all.convertEntries_cases keyed.once {}
  · have given := all p.setting (List.mem_map_of_mem mem)
    rw [show root.entries.lookup p.setting.name = some (.scalar origin s) from found] at given
    cases given
  · exact failed

/-! ## Loading -/

variable {contents : String → Option ByteArray} {path : Option String}

/-- What the file gives, if one is named. -/
def fileLayer (contents : String → Option ByteArray) (path : Option String) :
    Except LoadError (Entries Value) :=
  match path with
  | some p => ConfigFile.layer contents p
  | none => .ok []

/-- A path with the extension of a format is read in this format. -/
theorem fileLayer_of_text {name text : String} {format : FileFormat}
    (there : contents name = some text.toUTF8) (format_eq : ConfigFile.formatOf? name = some format) :
    fileLayer contents (some name) = ConfigFile.layerOfText format (ConfigFile.originOf name) text := by
  have found : ConfigFile.find (fun p => (contents p).isSome) name = .ok (name, format) := by
    simp [ConfigFile.find, there, format_eq]
  have valid : text.toByteArray.IsValidUTF8 := text.isValidUTF8
  have decoded : String.fromUTF8? text.toUTF8 = some text := by
    simp [String.fromUTF8?, String.fromUTF8, valid]
  simp only [fileLayer, ConfigFile.layer, found, bind, Except.bind, there, Option.getD_some, decoded]

theorem load_of_read (read : fileLayer contents path = .ok file) (vars : Entries String) :
    load contents path vars = ofLayers [file, Environment.layer vars] := by
  cases path with
  | none =>
    obtain rfl := Except.ok.inj read
    rfl
  | some p =>
    have read : ConfigFile.layer contents p = .ok file := read
    simp only [load, read, bind, Except.bind]

theorem ofLayers_pair {first second : Entries Value} {root₁ root₂ : Value}
    (ok : (Value.table none []).overlay first = .ok root₁) (ok' : root₁.overlay second = .ok root₂) :
    ofLayers [first, second] = (Schema.config.convert root₂).mapError .fault := by
  simp only [ofLayers, List.foldlM_cons, List.foldlM_nil, bind, Except.bind, pure, Except.pure, ok, ok']
  rfl

/-- The configuration is loaded leaf by leaf, unless a variable stands for a whole section. -/
theorem load_cases (read : fileLayer contents path = .ok file) (orderly : IsOrderly file)
    (orderly' : Environment.IsOrderly vars) (partly : ∀ p ∈ Section.all, ¬ Environment.WholeSection vars p) :
    (∃ config, load contents path vars = .ok config ∧
        ∀ leaf ∈ Leaf.all, leaf.effective file vars = .ok (leaf.get config)) ∨
      ((∃ error, load contents path vars = .error error) ∧
        ∃ leaf ∈ Leaf.all, ∃ fault, leaf.effective file vars = .error fault) := by
  obtain ⟨root₁, ok, sectioned, holds⟩ := isSectioned_empty.overlay orderly
  obtain ⟨root₂, ok', sectioned', holds'⟩ := sectioned.overlay (isOrderly_environment orderly' partly)
  rw [load_of_read read, ofLayers_pair ok ok']
  have given : ∀ leaf ∈ Leaf.all, leaf.find? root₂ = leaf.given? file vars := by
    intro leaf mem
    rw [holds' leaf mem, holds leaf mem, orderly'.layer_eq, Leaf.inLayer?_entries, Leaf.given?]
    cases leaf.text? vars with
    | some text => rfl
    | none => cases leaf.inLayer? file <;> rfl
  obtain ⟨config, converted, all⟩ | ⟨⟨fault, failed⟩, leaf, mem, fault', bad⟩ := sectioned'.convert_cases
  · rw [converted]
    refine .inl ⟨config, rfl, fun leaf mem => ?_⟩
    rw [Leaf.effective, ← given leaf mem]
    exact all leaf mem
  · rw [failed]
    refine .inr ⟨⟨_, rfl⟩, leaf, mem, fault', ?_⟩
    rw [Leaf.effective, ← given leaf mem]
    exact bad

/-- Nothing is loaded where a variable stands for a whole section. -/
theorem load_of_whole (read : fileLayer contents path = .ok file) (orderly : IsOrderly file)
    (orderly' : Environment.IsOrderly vars) (mem : p ∈ Section.all)
      (whole : Environment.WholeSection vars p) :
    ∃ error, load contents path vars = .error error := by
  obtain ⟨root₁, ok, sectioned, -⟩ := isSectioned_empty.overlay orderly
  have ⟨⟨name, text⟩, set, is⟩ := whole
  obtain ⟨key, named, path_eq⟩ := Option.map_eq_some_iff.mp is
  obtain ⟨before, after, eq⟩ := List.append_of_mem set
  have layer_eq : Environment.layer vars = before.filterMap Environment.entryOf? ++
      (key, Environment.given text) :: after.filterMap Environment.entryOf? := by
    have entry : Environment.entryOf? (name, text) = some (key, Environment.given text) := by
      rw [Environment.entryOf?, named, Option.map_some]
    rw [orderly'.layer_eq, eq, List.filterMap_append, List.filterMap_cons_some entry]
  -- the variables behind it set nothing in the section
  have behind : ∀ e ∈ after.filterMap Environment.entryOf?, (KeyPath.ofKey e.1).head ≠ p.name := by
    intro e there here
    obtain ⟨v, there, set', -⟩ := Environment.mem_entries there
    have later : v ∈ vars := eq ▸ List.mem_append_right _ (List.mem_cons_of_mem _ there)
    have same := orderly'.whole p mem whole v later _ set' here
    have apart := orderly'.pairwise
    rw [eq, List.pairwise_append, List.pairwise_cons] at apart
    exact apart.2.1.1 v there _ is (same ▸ set')
  rw [load_of_read read]
  cases overlaid : root₁.overlay (Environment.layer vars) with
  | error o =>
    refine ⟨.overload o, ?_⟩
    simp only [ofLayers, List.foldlM_cons, bind, Except.bind, ok, overlaid]
    rfl
  | ok root₂ =>
    rw [ofLayers_pair ok overlaid]
    rw [layer_eq] at overlaid
    obtain ⟨keyed, found⟩ := overlay_whole sectioned.keyed path_eq behind overlaid
    obtain ⟨fault, failed⟩ := convert_of_scalar keyed mem found
    exact ⟨.fault fault, by rw [failed]; rfl⟩

/-! ## But for one leaf -/

namespace Leaf

/-- The variables but for the one that sets a leaf. -/
def withoutVariable (leaf : Leaf) (vars : Entries String) : Entries String :=
  vars.filter fun v => path? v.1 ≠ some leaf.path

/-- An entry of a file but for what it gives for a leaf: the table of a section loses one key, and is left
out if it has no other. -/
def trimmed? (leaf : Leaf) (e : String × Value) : Option (String × Value) :=
  if KeyPath.ofKey e.1 = leaf.path then none
  else if KeyPath.ofKey e.1 = ⟨leaf.part.name, []⟩ then
    match e.2.entries.filter fun x => lowercase x.1 ≠ leaf.setting.name with
    | [] => none
    | es => some (e.1, .table e.2.origin es)
  else some e

/-- The file but for what it gives for a leaf. -/
def withoutKey (leaf : Leaf) (file : Entries Value) : Entries Value :=
  file.filterMap leaf.trimmed?

variable {leaf other : Leaf}

theorem text?_withoutVariable (apart : other.path ≠ leaf.path) (vars : Entries String) :
    other.text? (leaf.withoutVariable vars) = other.text? vars := by
  unfold text? withoutVariable
  rw [List.find?_filter]
  congr 2
  funext v
  by_cases here : path? v.1 = some other.path
  · simp [here, apart]
  · simp [here]

theorem inLowercase?_filter {key name : String} (differ : name ≠ key) (es : Entries Value) :
    Value.inLowercase? name (es.filter fun x => lowercase x.1 ≠ key) = Value.inLowercase? name es := by
  unfold Value.inLowercase?
  rw [List.find?_filter]
  congr 2
  funext x
  by_cases here : lowercase x.1 = name
  · simp [here, differ]
  · simp [here]

/-- What an entry gives for other leaves is kept. -/
theorem givenBy?_trimmed (apart : other.path ≠ leaf.path) (e : String × Value) :
    ((leaf.trimmed? e).bind fun e' => other.givenBy? (KeyPath.ofKey e'.1) e'.2) =
      other.givenBy? (KeyPath.ofKey e.1) e.2 := by
  unfold trimmed?
  split
  · next own =>
    rw [own, givenBy?, if_neg (by simp [path]), if_neg (Ne.symm apart)]
    rfl
  · split
    · next whole =>
      by_cases here : other.part.name = leaf.part.name
      · have differ : other.setting.name ≠ leaf.setting.name := fun same => apart (by simp [path, here, same])
        have kept := inLowercase?_filter differ e.2.entries
        have is : KeyPath.ofKey e.1 = ⟨other.part.name, []⟩ := by rw [whole, here]
        rw [givenBy?, if_pos is, ← kept]
        split
        · next nothing =>
          rw [nothing]
          rfl
        · exact if_pos is
      · have nothing : ∀ v, other.givenBy? (KeyPath.ofKey e.1) v = none := fun v => by
          rw [whole, givenBy?, if_neg (by simp [Ne.symm here]), if_neg (by simp [path])]
        rw [nothing]
        split
        · rfl
        · exact nothing _
    · rfl

theorem inLayer?_withoutKey (apart : other.path ≠ leaf.path) (file : Entries Value) :
    other.inLayer? (leaf.withoutKey file) = other.inLayer? file := by
  induction file with
  | nil => rfl
  | cons e rest ih =>
    have kept := givenBy?_trimmed apart e
    rw [inLayer?_cons, ← kept, ← ih, withoutKey]
    cases trimmed : leaf.trimmed? e with
    | none =>
      rw [List.filterMap_cons_none trimmed]
      rfl
    | some e' =>
      rw [List.filterMap_cons_some trimmed, inLayer?_cons]
      rfl

/-- What is given for a leaf does not depend on what is given for another one. -/
theorem given?_congr (apart : other.path ≠ leaf.path) {file file' : Entries Value}
    {vars vars' : Entries String} (files : leaf.withoutKey file' = leaf.withoutKey file)
    (environments : leaf.withoutVariable vars' = leaf.withoutVariable vars) :
    other.given? file' vars' = other.given? file vars := by
  unfold given?
  rw [← text?_withoutVariable apart vars', environments, text?_withoutVariable apart,
    ← inLayer?_withoutKey apart file', files, inLayer?_withoutKey apart]

end Leaf

/-! ## Main statement -/

theorem exists_of_isOk {ε α : Type} {x : Except ε α} (ok : x.isOk = true) : ∃ a, x = .ok a := by
  cases x with
  | error _ => cases ok
  | ok a => exact ⟨a, rfl⟩

/-- In a configuration that is loaded each leaf is what the value that counts for it converts to. -/
theorem effective_of_load (read : fileLayer contents path = .ok file) (orderly : IsOrderly file)
    (orderly' : Environment.IsOrderly vars) {config : Config} (loaded : load contents path vars = .ok config)
    {leaf : Leaf} (mem : leaf ∈ Leaf.all) : leaf.effective file vars = .ok (leaf.get config) := by
  by_cases partly : ∀ p ∈ Section.all, ¬ Environment.WholeSection vars p
  · obtain ⟨config', loaded', all⟩ | ⟨⟨error, failed⟩, -⟩ := load_cases read orderly orderly' partly
    · obtain rfl := Except.ok.inj (loaded.symm.trans loaded')
      exact all leaf mem
    · cases loaded.symm.trans failed
  · simp only [not_forall, not_not] at partly
    obtain ⟨p, is, whole⟩ := partly
    obtain ⟨error, failed⟩ := load_of_whole read orderly orderly' is whole
    cases loaded.symm.trans failed

/-- **Loading leaf by leaf.** Let each entry of the file be the table of a section, with no two keys the same
in lower case, or be nothing to the sections; let each variable be that of a leaf, or of a whole section, or
be nothing to the sections; and let no two set the same. If all values that count convert, a configuration is
loaded, and each of its leaves is what its variable converts to if that is set, what the file gives
otherwise, and the default if the file gives nothing. If some value that counts does not convert, there is an
error. The variable of a leaf is `CARTOON__<SECTION>__<KEY>`. What is neither in the file nor in the
environment keeps its default, whatever else its section is given. And what is set, changed or removed for one
leaf, in the file or in the environment, changes no other leaf. -/
theorem load_leaves (read : fileLayer contents path = .ok file) (orderly : IsOrderly file)
    (orderly' : Environment.IsOrderly vars) :
    ((∀ leaf ∈ Leaf.all, ∃ a, leaf.effective file vars = .ok a) →
      (∀ p ∈ Section.all, ¬ Environment.WholeSection vars p) →
      ∃ config, load contents path vars = .ok config ∧
        ∀ leaf ∈ Leaf.all, leaf.effective file vars = .ok (leaf.get config)) ∧
    ((∃ leaf ∈ Leaf.all, ∃ fault, leaf.effective file vars = .error fault) ∨
        (∃ p ∈ Section.all, Environment.WholeSection vars p) →
      ∃ error, load contents path vars = .error error) ∧
    (∀ leaf ∈ Leaf.all, ∀ text, (leaf.variableName, text) ∈ vars → leaf.text? vars = some text) ∧
    (∀ config, load contents path vars = .ok config → ∀ leaf ∈ Leaf.all,
      leaf.text? vars = none → leaf.inLayer? file = none → leaf.get config = leaf.get {}) ∧
    ∀ leaf ∈ Leaf.all, ∀ contents' path' file' vars' config config',
      fileLayer contents' path' = .ok file' → IsOrderly file' → Environment.IsOrderly vars' →
      leaf.withoutKey file' = leaf.withoutKey file → leaf.withoutVariable vars' = leaf.withoutVariable vars →
      load contents path vars = .ok config → load contents' path' vars' = .ok config' →
      ∀ other ∈ Leaf.all, other.path ≠ leaf.path → other.get config' = other.get config := by
  refine ⟨fun all partly => ?_, ?_, fun leaf mem text set => Leaf.text?_eq_some orderly' mem set,
    fun config loaded leaf mem unset absent => ?_, ?_⟩
  · obtain loaded | ⟨-, leaf, mem, fault, bad⟩ := load_cases read orderly orderly' partly
    · exact loaded
    · obtain ⟨a, good⟩ := all leaf mem
      cases good.symm.trans bad
  · rintro (⟨leaf, mem, fault, bad⟩ | ⟨p, mem, whole⟩)
    · cases loaded : load contents path vars with
      | error error => exact ⟨error, rfl⟩
      | ok config => cases (effective_of_load read orderly orderly' loaded mem).symm.trans bad
    · exact load_of_whole read orderly orderly' mem whole
  · have effective := effective_of_load read orderly orderly' loaded mem
    have nothing : leaf.given? file vars = none := by rw [Leaf.given?, unset, absent, Option.map_none]
    rw [Leaf.effective, nothing] at effective
    exact (Except.ok.inj effective).symm
  · intro leaf mem contents' path' file' vars' config config' read' tidy tidy' files environments loaded
      loaded' other mem' apart
    have before := effective_of_load read orderly orderly' loaded mem'
    have after := effective_of_load read' tidy tidy' loaded' mem'
    rw [Leaf.effective, Leaf.given?_congr apart files environments] at after
    exact Except.ok.inj (after.symm.trans before)

/-- A file and a variable both give the width, and the file gives the height as well. Without the variable the
width is that of the file and nothing else changes; with a negative width nothing is loaded. -/
theorem load_leaves_width :
    let folder := fun name =>
      if name = "run.toml" then some "[capture]\nwidth = 320\nHeight = 240\n".toUTF8 else none
    let vars := fun text => [("PATH", "/bin"), ("CARTOON__CAPTURE__WIDTH", text)]
    ∃ config config', load folder (some "run.toml") (vars "123") = .ok config ∧
      load folder (some "run.toml") [("PATH", "/bin")] = .ok config' ∧
      config.capture.width = 123 ∧ config.capture.height = 240 ∧ config.capture.fps = 30 ∧
      config'.capture.width = 320 ∧
      (∀ other ∈ Leaf.all, other.path ≠ ⟨"capture", [.child "width"]⟩ →
        other.get config' = other.get config) ∧
      ∃ error, load folder (some "run.toml") (vars "-1") = .error error := by
  intro folder vars
  let file := ConfigFile.ofTomlEntries (ConfigFile.originOf "run.toml")
    [("capture", .table [("width", .int 320), ("Height", .int 240)])]
  have read : fileLayer folder (some "run.toml") = .ok file := by
    have slashes : "run.toml".splitOn "/" = ["run.toml"] := by
      simp +decide [String.splitOn, String.splitOnAux]
    have points : "run.toml".splitOn "." = ["run", "toml"] := by
      simp +decide [String.splitOn, String.splitOnAux]
    have format : ConfigFile.formatOf? "run.toml" = some .toml := by
      simp +decide [ConfigFile.formatOf?, ConfigFile.components, ConfigFile.extensionOf, slashes, points]
    have parsed : Toml.parse? "[capture]\nwidth = 320\nHeight = 240\n" =
        some [("capture", .table [("width", .int 320), ("Height", .int 240)])] := by cbv
    rw [fileLayer_of_text rfl format, ConfigFile.layerOfText, parsed]
  have tidy : IsOrderly file := by
    refine isOrderly_of_tables (fun e mem => ?_) (List.nodup_singleton _)
    obtain rfl := List.mem_singleton.mp mem
    exact ⟨.capture, List.mem_cons_self .., _, _, by decide +kernel, rfl, by decide +kernel⟩
  have tidy' : ∀ environment ∈ [vars "123", [("PATH", "/bin")], vars "-1"],
      Environment.IsOrderly environment ∧ ∀ p ∈ Section.all, ¬ Environment.WholeSection environment p := by
    have leaves : ∀ environment ∈ [vars "123", [("PATH", "/bin")], vars "-1"],
        (∀ v ∈ environment, ∀ path ∈ path? v.1, ∃ leaf ∈ Leaf.all, path = leaf.path) ∧
        ((environment.map (·.1)).filterMap path?).Nodup := by decide +kernel
    exact fun environment mem => Environment.isOrderly_of_leaves (leaves _ mem).1 (leaves _ mem).2
  have converts : ∀ environment ∈ [vars "123", [("PATH", "/bin")]], ∀ leaf ∈ Leaf.all,
      (leaf.effective file environment).isOk = true := by decide +kernel
  obtain ⟨given, partly⟩ := tidy' (vars "123") (by simp)
  obtain ⟨unset, partly'⟩ := tidy' [("PATH", "/bin")] (by simp)
  obtain ⟨bad, -⟩ := tidy' (vars "-1") (by simp)
  obtain ⟨loads, -, -, default, alone⟩ := load_leaves read tidy given
  obtain ⟨config, loaded, holds⟩ := loads
    (fun leaf mem => exists_of_isOk (converts _ (by simp) leaf mem)) partly
  obtain ⟨config', loaded', holds'⟩ := (load_leaves read tidy unset).1
    (fun leaf mem => exists_of_isOk (converts _ (by simp) leaf mem)) partly'
  let width : Leaf := ⟨.capture, .mk "width" Kind.word32 (·.width) fun x s => { s with width := x }⟩
  let height : Leaf := ⟨.capture, .mk "height" Kind.word32 (·.height) fun x s => { s with height := x }⟩
  let fps : Leaf := ⟨.capture, .mk "fps" Kind.word32 (·.fps) fun x s => { s with fps := x }⟩
  have width_mem : width ∈ Leaf.all := List.mem_of_getElem? (i := 2) rfl
  have height_mem : height ∈ Leaf.all := List.mem_of_getElem? (i := 3) rfl
  have fps_mem : fps ∈ Leaf.all := List.mem_of_getElem? (i := 4) rfl
  have first : width.effective file (vars "123") = .ok 123 := by decide +kernel
  have second : height.effective file (vars "123") = .ok 240 := by decide +kernel
  have third : width.effective file [("PATH", "/bin")] = .ok 320 := by decide +kernel
  have negative : width.effective file (vars "-1") =
      .error (.wrongType (.signed (-1)) "an unsigned 64 bit or less integer" none (some .environment)) := by
    decide +kernel
  have absent : fps.inLayer? file = none := Option.isNone_iff_eq_none.mp (by decide +kernel)
  refine ⟨config, config', loaded, loaded', ?_, ?_,
    default config loaded fps fps_mem (by decide +kernel) absent, ?_, ?_,
    (load_leaves read tidy bad).2.1 (.inl ⟨width, width_mem, _, negative⟩)⟩
  · exact Except.ok.inj ((holds width width_mem).symm.trans first)
  · exact Except.ok.inj ((holds height height_mem).symm.trans second)
  · exact Except.ok.inj ((holds' width width_mem).symm.trans third)
  · exact alone width width_mem _ _ file _ config config' read tidy unset rfl
      (by decide +kernel) loaded loaded'

end Config

end FramePipeline
