import FramePipeline.Proofs.Config.IntegerNumerals
import FramePipeline.Proofs.Config.LeavesInLayers

/-!
# Values that are kept

A value passes through untyped trees between the text in which it is given and the field of the configuration.
An integer for a field of 32 bits comes through unchanged or not at all, if it is not below the range of 64
bits. The device comes through unchanged unless its text in the environment reads as a truth value or as a
number; then it is the plain spelling of that.

Main definitions: `Config.WordSetting` (the fields of 32 bits), `Config.Leaf.device`, `Environment.IsPlain`
(texts that stand for themselves), `Environment.Spelling` (how the value of a text is spelled). Main
statements: `Config.load_lone`, `Config.load_given_eq`.
-/

namespace FramePipeline

open FramePipeline.Text (lowercase)

/-! ## Texts of variables -/

namespace Environment

variable {text : String} {n : Int}

/-- The text reads neither as a truth value nor as a number. -/
structure IsPlain (text : String) : Prop where
  notTrue : lowercase text ≠ "true"
  notFalse : lowercase text ≠ "false"
  notNumber : readNumeral? text = none

theorem IsPlain.valueOf_eq (h : IsPlain text) : valueOf text = .text text := by
  have number : valueOf.number text = .text text := by rw [valueOf.number, h.notNumber]
  unfold valueOf
  simp only [h.notTrue, h.notFalse, if_false, number]
  split
  · next i reads =>
    obtain ⟨negative, -, numeral⟩ := readNumeral?_of_readInteger reads
    rw [h.notNumber] at numeral
    cases numeral
  · rfl

theorem valueOf_of_truth (truth : lowercase text = "true" ∨ lowercase text = "false") :
    valueOf text = .bool (lowercase text = "true") := by
  rcases truth with is | is <;> simp [valueOf, is]

theorem valueOf_of_signed (reads : readInteger? text = some n) (signed : Word.isSigned n = true) :
    valueOf text = .int n := by
  rcases valueOf_of_readInteger reads with ⟨-, value⟩ | ⟨unsigned, -⟩
  · exact value
  · rw [signed] at unsigned
    cases unsigned

theorem valueOf_of_number {x : Binary64} (notTrue : lowercase text ≠ "true")
    (notFalse : lowercase text ≠ "false")
    (noInteger : ∀ n, readInteger? text = some n → Word.isSigned n = false)
      (number : readNumeral? text = some x) : valueOf text = .real x := by
  have value : valueOf.number text = .real x := by rw [valueOf.number, number]
  unfold valueOf
  simp only [notTrue, notFalse, if_false, value]
  split
  · next n reads => rw [if_neg (by rw [noInteger n reads]; exact Bool.false_ne_true)]
  · rfl

/-! ### Spellings -/

/-- How the value of a text is spelled: a text that stands for itself as it is, a truth value in lower case,
and a number in its plain decimal form. -/
inductive Spelling (text : String) : String → Prop
  | plain (is : IsPlain text) : Spelling text text
  | truth (is : lowercase text = "true" ∨ lowercase text = "false") : Spelling text (lowercase text)
  | integer {n : Int} (reads : readInteger? text = some n) (signed : Word.isSigned n = true) :
      Spelling text (toString n)
  | number {x : Binary64} (notTrue : lowercase text ≠ "true") (notFalse : lowercase text ≠ "false")
      (noInteger : ∀ n, readInteger? text = some n → Word.isSigned n = false)
      (reads : readNumeral? text = some x) : Spelling text (Numeral.text .plain x)

/-- A text that a variable holds converts to its spelling. -/
theorem exists_spelling (text : String) : ∃ s, (given text).toText = .ok s ∧ Spelling text s := by
  by_cases truth : lowercase text = "true" ∨ lowercase text = "false"
  · refine ⟨lowercase text, ?_, .truth truth⟩
    rw [given, valueOf_of_truth truth, Value.toText]
    rcases truth with is | is <;> simp [is]
  · obtain ⟨notTrue, notFalse⟩ := not_or.mp truth
    cases number : readNumeral? text with
    | none =>
      have plain : IsPlain text := ⟨notTrue, notFalse, number⟩
      refine ⟨text, ?_, .plain plain⟩
      rw [given, plain.valueOf_eq, Value.toText]
    | some x =>
      by_cases integer : ∃ n, readInteger? text = some n ∧ Word.isSigned n = true
      · obtain ⟨n, reads, signed⟩ := integer
        refine ⟨toString n, ?_, .integer reads signed⟩
        rw [given, valueOf_of_signed reads signed, Value.toText]
      · have noInteger : ∀ n, readInteger? text = some n → Word.isSigned n = false := fun n reads =>
          Bool.eq_false_iff.mpr fun signed => integer ⟨n, reads, signed⟩
        refine ⟨_, ?_, .number notTrue notFalse noInteger number⟩
        rw [given, valueOf_of_number notTrue notFalse noInteger number, Value.toText]

theorem Spelling.eq_of_isPlain {s : String} (h : Spelling text s) (plain : IsPlain text) : s = text := by
  cases h with
  | plain => rfl
  | truth is => exact absurd is (not_or.mpr ⟨plain.notTrue, plain.notFalse⟩)
  | integer reads =>
    obtain ⟨negative, -, numeral⟩ := readNumeral?_of_readInteger reads
    cases plain.notNumber.symm.trans numeral
  | number notTrue notFalse noInteger reads => cases plain.notNumber.symm.trans reads

/-- An integer of 64 bits in its usual form is spelled as it is. -/
theorem Spelling.eq_of_toString {s : String} (h : Spelling (toString n) s) (signed : Word.isSigned n = true) :
    s = toString n := by
  have reads := readInteger?_toString n
  have lower := lowercase_of_readInteger reads
  cases h with
  | plain => rfl
  | truth is => exact lower
  | integer reads' =>
    obtain rfl := Option.some.inj (reads.symm.trans reads')
    rfl
  | number notTrue notFalse noInteger =>
    rw [noInteger n reads] at signed
    cases signed

/-! ### Texts with a slash -/

theorem mem_lowerFrom {c : Char} {cs : List Char} (mem : c ∈ cs) (fixed : c ≠ 'Σ' ∧ Text.lowerChar c = [c])
    (before : List Char) : c ∈ Text.lowerFrom before cs := by
  induction cs generalizing before with
  | nil => cases mem
  | cons d rest ih =>
    rw [Text.lowerFrom, List.mem_append]
    rcases List.mem_cons.mp mem with rfl | mem
    · refine .inl ?_
      rw [if_neg fixed.1, fixed.2]
      exact List.mem_singleton_self _
    · exact .inr (ih mem _)

end Environment

namespace Decimal

/-- A character that decimal numerals have. -/
def isNumeralChar (c : Char) : Bool :=
  isDigit c || c = '.' || c = 'e' || c = 'E' || c = '+' || c = '-'

theorem isNumeralChar_of_isDigit {c : Char} (digit : isDigit c = true) : isNumeralChar c = true := by
  simp [isNumeralChar, digit]

theorem isNumeralChar_of_readExponent {cs : List Char} {e : Int} (reads : readExponent? cs = some e) :
    ∀ c ∈ cs, isNumeralChar c = true := by
  cases cs with
  | nil => nofun
  | cons d r =>
    simp only [readExponent?] at reads
    split at reads
    · next is =>
      split at reads
      · cases reads
      · next digits =>
        simp only [Bool.or_eq_true, Bool.not_eq_true', not_or, Bool.not_eq_false, List.all_eq_true] at digits
        have ofDigit := fun c mem => isNumeralChar_of_isDigit (digits.2 c mem)
        have first : isNumeralChar d = true := by
          rcases Bool.or_eq_true_iff.mp is with e | e <;> simp [isNumeralChar, of_decide_eq_true e]
        refine List.forall_mem_cons.mpr ⟨first, ?_⟩
        rcases splitSign_cases r with eq | ⟨body, rfl, eq⟩ | ⟨body, rfl, eq⟩ <;> rw [eq] at ofDigit
        · exact ofDigit
        · exact List.forall_mem_cons.mpr ⟨rfl, ofDigit⟩
        · exact List.forall_mem_cons.mpr ⟨rfl, ofDigit⟩
    · cases reads

theorem isNumeralChar_of_read {negative : Bool} {cs : List Char} {d : Decimal}
    (reads : read? negative cs = some d) :
    ∀ c ∈ cs, isNumeralChar c = true := by
  have run : ∀ ds : List Char, ∀ c ∈ ds.takeWhile isDigit, isNumeralChar c = true := fun ds c mem =>
    isNumeralChar_of_isDigit (List.mem_takeWhile_imp mem)
  have behind : ∀ ds : List Char, (∀ c ∈ ds.dropWhile isDigit, isNumeralChar c = true) →
      ∀ c ∈ ds, isNumeralChar c = true := by
    intro ds rest
    rw [← List.takeWhile_append_dropWhile (p := isDigit) (l := ds)]
    exact List.forall_mem_append.mpr ⟨run ds, rest⟩
  refine behind cs ?_
  unfold read? at reads
  generalize cs.dropWhile isDigit = rest at reads
  dsimp only at reads
  split at reads
  · next r =>
    split at reads
    · cases reads
    · obtain ⟨e, exponent, -⟩ := Option.bind_eq_some_iff.mp reads
      exact List.forall_mem_cons.mpr ⟨rfl, behind r (isNumeralChar_of_readExponent exponent)⟩
  · split at reads
    · cases reads
    · obtain ⟨e, exponent, -⟩ := Option.bind_eq_some_iff.mp reads
      exact isNumeralChar_of_readExponent exponent

end Decimal

/-- A path of a file is no numeral. -/
theorem readNumeral?_of_slash {text : String} (slash : '/' ∈ text.toList) : readNumeral? text = none := by
  have inBody : '/' ∈ (Decimal.splitSign text.toList).2 := by
    rcases Decimal.splitSign_cases text.toList with eq | ⟨body, chars, eq⟩ | ⟨body, chars, eq⟩
    · rw [eq]
      exact slash
    all_goals
      rw [eq]
      rw [chars] at slash
      exact (List.mem_cons.mp slash).resolve_left (by decide)
  unfold readNumeral?
  generalize Decimal.splitSign text.toList = parts at inBody
  obtain ⟨negative, body⟩ := parts
  have apart : ∀ word : String, '/' ∉ word.toList → String.ofList (body.map Char.toLower) ≠ word := by
    rintro word without rfl
    rw [String.toList_ofList] at without
    exact without (List.mem_map.mpr ⟨'/', inBody, rfl⟩)
  have unread : Decimal.read? negative body = none := by
    refine Option.eq_none_iff_forall_ne_some.mpr fun d reads => ?_
    exact absurd (Decimal.isNumeralChar_of_read reads '/' inBody) (by decide)
  simp only [apart "inf" (by decide), apart "infinity" (by decide), apart "nan" (by decide), unread]
  rfl

/-- The path of a device stands for itself. -/
theorem Environment.isPlain_of_slash {text : String} (slash : '/' ∈ text.toList) : IsPlain text := by
  have kept : '/' ∈ (lowercase text).toList := by
    rw [lowercase, String.toList_ofList]
    exact mem_lowerFrom slash (by decide) []
  refine ⟨fun is => ?_, fun is => ?_, readNumeral?_of_slash slash⟩
  · rw [is] at kept
    exact absurd kept (by decide)
  · rw [is] at kept
    exact absurd kept (by decide)

namespace Config

open Environment (path?)

/-! ## Fields -/

/-- A setting of the capture section that is a word of 32 bits. -/
inductive WordSetting where
  | width
  | height
  | fps
  | bufferCount
  | maxConsecutiveErrors

namespace WordSetting

/-- The name under which it is given. -/
def name : WordSetting → String
  | width => "width"
  | height => "height"
  | fps => "fps"
  | bufferCount => "buffer_count"
  | maxConsecutiveErrors => "max_consecutive_errors"

/-- Its value. -/
def get : WordSetting → CaptureConfig → UInt32
  | width, s => s.width
  | height, s => s.height
  | fps, s => s.fps
  | bufferCount, s => s.bufferCount
  | maxConsecutiveErrors, s => s.maxConsecutiveErrors

/-- The section with another value of it. -/
def set : WordSetting → UInt32 → CaptureConfig → CaptureConfig
  | width, a, s => { s with width := a }
  | height, a, s => { s with height := a }
  | fps, a, s => { s with fps := a }
  | bufferCount, a, s => { s with bufferCount := a }
  | maxConsecutiveErrors, a, s => { s with maxConsecutiveErrors := a }

theorem get_set (x : WordSetting) (a : UInt32) (s : CaptureConfig) : x.get (x.set a s) = a := by
  cases x <;> rfl

/-- The leaf that it is. -/
def leaf (x : WordSetting) : Leaf :=
  ⟨.capture, .mk x.name Kind.word32 x.get x.set x.get_set⟩

theorem leaf_mem (x : WordSetting) : x.leaf ∈ Leaf.all := by
  cases x with
  | width => exact List.mem_of_getElem? (i := 2) rfl
  | height => exact List.mem_of_getElem? (i := 3) rfl
  | fps => exact List.mem_of_getElem? (i := 4) rfl
  | bufferCount => exact List.mem_of_getElem? (i := 6) rfl
  | maxConsecutiveErrors => exact List.mem_of_getElem? (i := 7) rfl

end WordSetting

/-- The leaf of the device. -/
def Leaf.device : Leaf :=
  ⟨.capture, .mk "device" Kind.text (·.device) fun x s => { s with device := x }⟩

theorem Leaf.device_mem : Leaf.device ∈ Leaf.all :=
  List.mem_of_getElem? (i := 1) rfl

/-! ## A single variable -/

/-- A leaf has its own path. -/
theorem Leaf.once_paths : (Leaf.all.map Leaf.path).Nodup := by
  decide +kernel

/-- **A single variable.** If its text converts, it is loaded. -/
theorem load_lone {leaf : Leaf} (mem : leaf ∈ Leaf.all) {text : String} {a : leaf.setting.α}
    (converts : leaf.setting.kind.convert (Environment.given text) = .ok a)
    (contents : String → Option ByteArray) :
    ∃ config, load contents none [(leaf.variableName, text)] = .ok config ∧ leaf.get config = a := by
  have named := Leaf.path?_variableName mem
  obtain ⟨orderly, partly⟩ : Environment.IsOrderly [(leaf.variableName, text)] ∧
      ∀ p ∈ Section.all, ¬ Environment.WholeSection [(leaf.variableName, text)] p := by
    refine Environment.isOrderly_of_leaves (fun v there path is => ?_) ?_
    · obtain rfl := List.mem_singleton.mp there
      exact ⟨leaf, mem, (Option.some.inj (named.symm.trans is)).symm⟩
    · rw [List.map_singleton, List.filterMap_cons_some named]
      exact List.nodup_singleton _
  have given : leaf.text? [(leaf.variableName, text)] = some text :=
    Leaf.text?_eq_some orderly mem (List.mem_singleton_self _)
  have read : fileLayer contents none = .ok [] := rfl
  rcases load_cases read ⟨nofun, List.Pairwise.nil⟩ orderly partly with
    ⟨config, loaded, all⟩ | ⟨-, other, mem', fault, bad⟩
  · have effective := all leaf mem
    rw [Leaf.effective, Leaf.given?, given] at effective
    exact ⟨config, loaded, (Except.ok.inj (converts.symm.trans effective)).symm⟩
  · -- a leaf with another path has its default
    exfalso
    by_cases same : other.path = leaf.path
    · obtain rfl := List.inj_on_of_nodup_map Leaf.once_paths mem' mem same
      rw [Leaf.effective, Leaf.given?, given] at bad
      cases converts.symm.trans bad
    · have unset : other.text? [(leaf.variableName, text)] = none := by
        simp [Leaf.text?, named, Ne.symm same]
      rw [Leaf.effective, Leaf.given?, unset] at bad
      cases bad

/-! ## Main statement -/

/-- **Values are kept.** If a configuration is loaded and one variable alone sets a field of 32 bits, to a
text that reads as an integer, then the field is this integer; and so it is if no variable sets the field but
the file gives it once, as an integer of TOML or JSON or as a text. Nothing is reduced modulo a power of two,
and what does not fit is an error; but integers below the range of 64 bits are left out. A device that one
variable alone sets is its text in plain spelling: exactly the text if this reads neither as a truth value nor
as a number, as the path of a device never does, or if it is an integer of 64 bits in its usual form. Every
integer that fits and every text of a device is loaded, if nothing else is given. -/
theorem load_given_eq (contents : String → Option ByteArray) :
    (∀ path vars config, load contents path vars = .ok config →
      (∀ (x : WordSetting) text n, x.leaf.SetAlone text vars → readInteger? text = some n →
        -0x8000000000000000 ≤ n → ((x.get config.capture).toNat : Int) = n) ∧
      (∀ (x : WordSetting) file w n, fileLayer contents path = .ok file → x.leaf.GivenBy w file →
        x.leaf.Unset vars → w.IntegerNotation n → ((x.get config.capture).toNat : Int) = n) ∧
      ∀ text, Leaf.device.SetAlone text vars → Environment.Spelling text config.capture.device) ∧
    (∀ text s, Environment.Spelling text s →
      (Environment.IsPlain text → s = text) ∧ ∀ n, Word.isSigned n = true → text = toString n → s = text) ∧
    (∀ text, '/' ∈ text.toList → Environment.IsPlain text) ∧
    (∀ (x : WordSetting) text n, readInteger? text = some n → 0 ≤ n → n < UInt32.size →
      ∃ config, load contents none [(x.leaf.variableName, text)] = .ok config ∧
        ((x.get config.capture).toNat : Int) = n) ∧
    (∀ text, ∃ config, load contents none [(Leaf.device.variableName, text)] = .ok config ∧
      Environment.Spelling text config.capture.device) ∧
    ∀ token n t, readInteger? token = some n → Toml.decimal.parse? token.toList = some t →
      t = .int n ∧ Word.isSigned n = true := by
  refine ⟨fun path vars config loaded => ⟨?_, ?_, ?_⟩, fun text s spells => ⟨spells.eq_of_isPlain, ?_⟩,
    fun text slash => Environment.isPlain_of_slash slash, ?_, ?_, fun _ _ _ => Toml.decimal_of_integer⟩
  · intro x text n alone reads low
    have converted := (Leaf.convert_of_load loaded x.leaf_mem).1 text alone
    exact (Value.IntegerNotation.environment reads low).eq_of_toWord32 converted
  · intro x file w n read given unset writes
    have converted := (Leaf.convert_of_load loaded x.leaf_mem).2 file w read given unset
    rw [writes.integerValue.onto_eq] at converted
    exact writes.eq_of_toWord32 converted
  · intro text alone
    have converted := (Leaf.convert_of_load loaded Leaf.device_mem).1 text alone
    obtain ⟨s, ok, spells⟩ := Environment.exists_spelling text
    obtain rfl : s = config.capture.device := Except.ok.inj (ok.symm.trans converted)
    exact spells
  · rintro n signed rfl
    exact spells.eq_of_toString signed
  · intro x text n reads nonneg fits
    have signed : Word.isSigned n = true := by
      rw [Word.isSigned_iff]
      unfold UInt32.size at fits
      omega
    have converts : x.leaf.setting.kind.convert (Environment.given text) = .ok (UInt32.ofNat n.toNat) := by
      rw [Environment.given, Environment.valueOf_of_signed reads signed]
      exact Value.toWord32_int _ nonneg fits
    obtain ⟨config, loaded, value⟩ := load_lone x.leaf_mem converts contents
    have value : x.get config.capture = UInt32.ofNat n.toNat := value
    refine ⟨config, loaded, ?_⟩
    rw [value, UInt32.toNat_ofNat_of_lt' (by omega)]
    omega
  · intro text
    obtain ⟨s, converts, spells⟩ := Environment.exists_spelling text
    obtain ⟨config, loaded, value⟩ := load_lone Leaf.device_mem converts contents
    have value : config.capture.device = s := value
    exact ⟨config, loaded, value ▸ spells⟩

/-- A device of digits is respelled without leading zeros, and an integer one below the range of 64 bits is
taken for zero, in a variable as in a JSON numeral. -/
theorem load_given_ne :
    ∃ config config', load (fun _ => none) none [("CARTOON__CAPTURE__DEVICE", "00042")] = .ok config ∧
      config.capture.device = "42" ∧ config.capture.device ≠ "00042" ∧
      load (fun _ => none) none [("CARTOON__CAPTURE__WIDTH", "-9223372036854775809")] = .ok config' ∧
      readInteger? "-9223372036854775809" = some (-9223372036854775809) ∧
      ((config'.capture.width).toNat : Int) ≠ -9223372036854775809 ∧
      ∃ j, (Json.Numeral.mk true "9223372036854775809".toList none none).value? = some j ∧
        (ConfigFile.ofJson (.file "config.json") j).toWord32 = .ok 0 := by
  have device_name : Leaf.device.variableName = "CARTOON__CAPTURE__DEVICE" := by decide +kernel
  have width_name : WordSetting.width.leaf.variableName = "CARTOON__CAPTURE__WIDTH" := by decide +kernel
  have respelled : Kind.text.convert (Environment.given "00042") = .ok "42" := by decide +kernel
  have lost : Kind.word32.convert (Environment.given "-9223372036854775809") = .ok 0 := by decide +kernel
  obtain ⟨config, loaded, device⟩ := load_lone Leaf.device_mem respelled fun _ => none
  obtain ⟨config', loaded', zero⟩ :=
    load_lone WordSetting.width.leaf_mem lost fun _ => none
  have device : config.capture.device = "42" := device
  have zero : config'.capture.width = 0 := zero
  rw [device_name] at loaded
  rw [width_name] at loaded'
  refine ⟨config, config', loaded, device, ?_, loaded', by decide, ?_, _, rfl, ?_⟩
  · rw [device]
    decide
  · rw [zero]
    decide
  · rw [ConfigFile.ofJson]
    decide +kernel

/-- A variable gives the width with a plus and a zero in front, another one the device, and the file the
height, the largest there is. -/
theorem load_given_eq_two_layers :
    let folder := fun name =>
      if name = "run.json" then some "\x7b\"capture\":\x7b\"Height\":4294967295\x7d\x7d".toUTF8 else none
    let vars :=
      [("PATH", "/bin"), ("CARTOON__CAPTURE__WIDTH", "+0320"), ("CARTOON__CAPTURE__DEVICE", "/dev/video7")]
    ∃ config, load folder (some "run.json") vars = .ok config ∧ config.capture.width = 320 ∧
      config.capture.height = 4294967295 ∧ config.capture.device = "/dev/video7" := by
  intro folder vars
  let file := ConfigFile.ofJsonMembers (ConfigFile.originOf "run.json")
    [("capture", .object [("Height", .int 4294967295)])]
  have read : fileLayer folder (some "run.json") = .ok file := by
    have slashes : "run.json".splitOn "/" = ["run.json"] := by
      simp +decide [String.splitOn, String.splitOnAux]
    have points : "run.json".splitOn "." = ["run", "json"] := by
      simp +decide [String.splitOn, String.splitOnAux]
    have format : ConfigFile.formatOf? "run.json" = some .json := by
      simp +decide [ConfigFile.formatOf?, ConfigFile.components, ConfigFile.extensionOf, slashes, points]
    have parsed : Json.parse? "\x7b\"capture\":\x7b\"Height\":4294967295\x7d\x7d" =
        some (.object [("capture", .object [("Height", .int 4294967295)])]) := by cbv
    rw [fileLayer_of_text rfl format, ConfigFile.layerOfText, parsed]
  have tidy : IsOrderly file := by
    refine isOrderly_of_tables (fun e mem => ?_) (List.nodup_singleton _)
    obtain rfl := List.mem_singleton.mp mem
    exact ⟨.capture, List.mem_cons_self .., _, _, by decide +kernel, rfl, by decide +kernel⟩
  have unrelated : path? "PATH" = none := by decide +kernel
  have of_width : path? "CARTOON__CAPTURE__WIDTH" = some WordSetting.width.leaf.path := by decide +kernel
  have of_device : path? "CARTOON__CAPTURE__DEVICE" = some Leaf.device.path := by decide +kernel
  -- what the variables do to a leaf
  have spared : ∀ leaf : Leaf, ∀ v ∈ vars,
      (v = ("CARTOON__CAPTURE__WIDTH", "+0320") → WordSetting.width.leaf.path ≠ leaf.path) →
      (v = ("CARTOON__CAPTURE__DEVICE", "/dev/video7") → Leaf.device.path ≠ leaf.path) →
      ∀ path, path? v.1 = some path → leaf.OtherEntry path (Environment.given v.2) := by
    intro leaf v mem notWidth notDevice path is
    simp only [vars, List.mem_cons, List.not_mem_nil, or_false] at mem
    rcases mem with rfl | rfl | rfl
    · cases unrelated.symm.trans is
    · obtain rfl := Option.some.inj (of_width.symm.trans is)
      exact Leaf.otherEntry_other (notWidth rfl) _
    · obtain rfl := Option.some.inj (of_device.symm.trans is)
      exact Leaf.otherEntry_other (notDevice rfl) _
  have loads : ∃ config, load folder (some "run.json") vars = .ok config := by
    have leaves : (∀ v ∈ vars, ∀ path ∈ path? v.1, ∃ leaf ∈ Leaf.all, path = leaf.path) ∧
        ((vars.map (·.1)).filterMap path?).Nodup := by decide +kernel
    have converts : ∀ leaf ∈ Leaf.all, (leaf.effective file vars).isOk = true := by decide +kernel
    obtain ⟨orderly, partly⟩ := Environment.isOrderly_of_leaves leaves.1 leaves.2
    rcases load_cases read tidy orderly partly with ⟨config, loaded, -⟩ | ⟨-, leaf, mem, fault, bad⟩
    · exact ⟨config, loaded⟩
    · have good := converts leaf mem
      rw [bad] at good
      cases good
  obtain ⟨config, loaded⟩ := loads
  obtain ⟨kept, plain, slash, -, -, -⟩ := load_given_eq folder
  obtain ⟨integers, ofFile, device⟩ := kept (some "run.json") vars config loaded
  have width_eq : ((config.capture.width).toNat : Int) = 320 := by
    refine integers .width "+0320" 320 ⟨_, by simp [vars], of_width, ?_⟩ (by decide) (by decide)
    exact fun v mem differ => spared WordSetting.width.leaf v mem (absurd · differ) fun _ => by decide
  have height_eq : ((config.capture.height).toNat : Int) = 4294967295 := by
    have here : KeyPath.ofKey "capture" = ⟨"capture", []⟩ := by decide +kernel
    have sets : WordSetting.height.leaf.SettingEntry
      (ConfigFile.ofJson (ConfigFile.originOf "run.json") (.int 4294967295))
        (KeyPath.ofKey "capture") _ :=
      here ▸ @Leaf.SettingEntry.table WordSetting.height.leaf _ (ConfigFile.originOf "run.json") [] []
        "Height" (by decide +kernel) (List.forall_mem_nil _)
    have isInteger : (Json.Numeral.mk false "4294967295".toList none none).IsInteger 4294967295 :=
      ⟨rfl, rfl, List.all_eq_true.mp (by decide), by decide +kernel⟩
    have value : (Json.Numeral.mk false "4294967295".toList none none).value? = some (.int 4294967295) := rfl
    refine ofFile .height file _ 4294967295 read ⟨[], _, [], rfl, sets, List.forall_mem_nil _⟩ ?_
      (.json _ isInteger value (by decide))
    exact fun v mem => spared WordSetting.height.leaf v mem (fun _ => by decide) fun _ => by decide
  have device_eq : config.capture.device = "/dev/video7" := by
    refine (plain _ _ (device "/dev/video7" ⟨_, by simp [vars], of_device, ?_⟩)).1 (slash _ (by decide))
    exact fun v mem differ => spared Leaf.device v mem (fun _ => by decide) (absurd · differ)
  refine ⟨config, loaded, ?_, ?_, device_eq⟩
  · exact UInt32.toNat_inj.mp (Int.ofNat_inj.mp width_eq)
  · exact UInt32.toNat_inj.mp (Int.ofNat_inj.mp height_eq)

end Config

end FramePipeline
