/-
A written command is read back as it was written.

The words of a command name its device and its options, each of them at most once, and count the verbosity flag.
Reading such a word fills in one argument and leaves the others alone, so what has been found is at any time the whole
command but for the arguments still to come (`Found.lacking`), whatever their order.
-/
import OpalLocking.CommandLine.Parser
import OpalLocking.CommandLine.Printer
import OpalLocking.Proofs.CommandLine.Decimals
import Mathlib.Data.List.Nodup
import Mathlib.Data.List.Perm.Basic

namespace OpalLocking.CommandLine

/-! ## Shapes of words -/

theorem Word.splitValue_append {name : List Char} (named : '=' ∉ name) (value : List Char) :
    splitValue (name ++ '=' :: value) = (String.ofList name, some (String.ofList value)) := by
  have before : ∀ c ∈ name, decide (c ≠ '=') = true := fun c mem => decide_eq_true fun same => named (same ▸ mem)
  have dropped : (name ++ '=' :: value).dropWhile (· ≠ '=') = '=' :: value := by
    rw [List.dropWhile_append_of_pos before]
    rfl
  have taken : (name ++ '=' :: value).takeWhile (· ≠ '=') = name := by
    rw [List.takeWhile_append_of_pos before]
    simp
  rw [splitValue, dropped, taken]

/-- The first equals sign divides an option from its value, so the value may be any text. -/
theorem Word.ofString_option (name : OptionName) (value : String) :
    Word.ofString (name.word value) = .long name.long (some value) := by
  have named : '=' ∉ name.long.toList := by cases name <;> decide
  have chars : (name.word value).toList = '-' :: '-' :: (name.long.toList ++ '=' :: value.toList) := by
    simp [OptionName.word, String.toList_append, toString]
  have shape : Word.ofList ('-' :: '-' :: (name.long.toList ++ '=' :: value.toList)) =
      .long (splitValue (name.long.toList ++ '=' :: value.toList)).1
        (splitValue (name.long.toList ++ '=' :: value.toList)).2 := by
    cases name <;> rfl
  rw [Word.ofString, chars, shape, splitValue_append named, String.ofList_toList, String.ofList_toList]

theorem Word.ofString_plain {word : String} (noDash : word.toList.head? ≠ some '-') : Word.ofString word = .plain := by
  unfold Word.ofString Word.ofList
  split <;> simp_all

theorem Word.ofString_verbose : Word.ofString Flag.verbose.word = .letters ['v'] := by
  decide

theorem OptionName.long_inj {name other : OptionName} (same : name.long = other.long) : name = other := by
  cases name <;> cases other <;> first | rfl | exact absurd same (by decide)

theorem Verb.longOption?_long {v : Verb} {name : OptionName} (known : name ∈ v.options.map (·.name)) :
    v.longOption? name.long = some name := by
  have found : (v.longOption? name.long).isSome :=
    List.find?_isSome.2 ⟨name, known, beq_self_eq_true _⟩
  obtain ⟨other, found⟩ := Option.isSome_iff_exists.1 found
  have same : other.long = name.long := by simpa using List.find?_some found
  rw [found, OptionName.long_inj same]

theorem Flag.ofLong?_long (name : OptionName) : Flag.ofLong? Flag.afterVerb name.long = none := by
  cases name <;> decide

/-! ## What a word tells -/

/-- An argument of a command. -/
inductive Argument
  | device
  | option (name : OptionName)
deriving DecidableEq, Repr

/-- A word of a command by what it tells. -/
inductive Item
  | device (word : String)
  | option (name : OptionName) (value : String)
  | verbose
deriving DecidableEq, Repr

namespace Item

def word : Item → String
  | .device word => word
  | .option name value => name.word value
  | .verbose => Flag.verbose.word

/-- The argument that an item gives. -/
def argument? : Item → Option Argument
  | .device _ => some .device
  | .option name _ => some (.option name)
  | .verbose => none

end Item

/-- What has been found but for these arguments. -/
def Found.lacking (f : Found) (arguments : List Argument) : Found where
  device := if .device ∈ arguments then none else f.device
  segment := if .option .segment ∈ arguments then none else f.segment
  start := if .option .start ∈ arguments then none else f.start
  length := if .option .length ∈ arguments then none else f.length
  key := if .option .key ∈ arguments then none else f.key
  adminKey := if .option .adminKey ∈ arguments then none else f.adminKey
  psid := if .option .psid ∈ arguments then none else f.psid

/-- A verb takes an item, and what is to be found has its value already. -/
def Item.Tells (v : Verb) (f : Found) : Item → Prop
  | .device word => v.takesDevice = true ∧ word.toList.head? ≠ some '-' ∧ f.device = some word
  | .option name value => name ∈ v.options.map (·.name) ∧ f.set name value = .ok f
  | .verbose => True

namespace Found

theorem lacking_congr (f : Found) {arguments others : List Argument} (same : ∀ a, a ∈ arguments ↔ a ∈ others) :
    f.lacking arguments = f.lacking others := by
  simp only [lacking, same]

theorem has_lacking (f : Found) (name : OptionName) (rest : List Argument) :
    (f.lacking (.option name :: rest)).has name = false := by
  cases name <;> simp [has, lacking]

/-- An option that is given fills in its own place. -/
theorem set_lacking {f : Found} {name : OptionName} {value : String} {rest : List Argument}
    (holds : f.set name value = .ok f) (new : .option name ∉ rest) :
    (f.lacking (.option name :: rest)).set name value = .ok (f.lacking rest) := by
  cases name with
  | segment | start | length =>
    obtain ⟨n, read, same⟩ := bind_eq_ok.1 holds
    injection same with same
    refine bind_eq_ok.2 ⟨n, read, congrArg Except.ok ?_⟩
    rw [← same]
    simp [lacking, new]
  | key | adminKey | psid =>
    injection holds with same
    rw [set, ← same]
    simp [lacking, new]

theorem device_lacking {f : Found} {word : String} {rest : List Argument} (holds : f.device = some word)
    (new : .device ∉ rest) : { f.lacking (.device :: rest) with device := some word } = f.lacking rest := by
  simp [lacking, holds, new]

end Found

/-! ## Reading words -/

theorem countFlag_le (verbosity : Nat) : countFlag verbosity ≤ 255 :=
  Nat.min_le_right _ _

namespace Reading

variable {program : Option String} {v : Verb} {f : Found} {rest : List Argument} {k : Nat}

theorem takeWord_device {word : String} (tells : (Item.device word).Tells v f) (new : .device ∉ rest) :
    ({ found := f.lacking (.device :: rest), verbosity := k } : Reading).takeWord program v word =
      .ok { found := f.lacking rest, verbosity := k } := by
  obtain ⟨takes, noDash, holds⟩ := tells
  have waiting : (v.takesDevice && (f.lacking (.device :: rest)).device.isNone) = true := by
    simp [takes, Found.lacking]
  simp only [takeWord, Word.ofString_plain noDash, takePlain, waiting, settle, ok_bind]
  rw [← Found.device_lacking holds new]
  rfl

theorem takeWord_option {name : OptionName} {value : String} (tells : (Item.option name value).Tells v f)
    (new : .option name ∉ rest) :
    ({ found := f.lacking (.option name :: rest), verbosity := k } : Reading).takeWord program v (name.word value) =
      .ok { found := f.lacking rest, verbosity := k } := by
  obtain ⟨known, holds⟩ := tells
  simp only [takeWord, Word.ofString_option, takeLong, Flag.ofLong?_long, Verb.longOption?_long known, takeOption,
    settle, ok_bind, store, Found.has_lacking, Found.set_lacking holds new]
  rfl

theorem takeWord_verbose :
    ({ found := f, verbosity := k } : Reading).takeWord program v Flag.verbose.word =
      .ok { found := f, verbosity := countFlag k } := by
  simp only [takeWord, Word.ofString_verbose]
  rfl

/-- Every item fills in its argument; only the flag is counted. -/
theorem takeWord_item {item : Item} (tells : item.Tells v f) (new : ∀ a ∈ item.argument?, a ∉ rest) :
    ({ found := f.lacking (item.argument?.toList ++ rest), verbosity := k } : Reading).takeWord program v item.word =
      .ok { found := f.lacking rest, verbosity := if item = .verbose then countFlag k else k } := by
  cases item with
  | device word => exact takeWord_device tells (new _ rfl)
  | option name value => exact takeWord_option tells (new _ rfl)
  | verbose => exact takeWord_verbose

/-- Words that tell a command are read without a complaint. -/
theorem takeWords_items {items : List Item} (program : Option String) (tells : ∀ item ∈ items, item.Tells v f)
    (once : (items.filterMap Item.argument?).Nodup) (small : k ≤ 255) :
    ({ found := f.lacking (items.filterMap Item.argument?), verbosity := k } : Reading).takeWords program v
        (items.map Item.word) =
      .ok { found := f, verbosity := min (k + items.count .verbose) 255 } := by
  induction items generalizing k with
  | nil =>
    rw [List.count_nil, Nat.add_zero, Nat.min_eq_left small]
    rfl
  | cons item rest ih =>
    obtain ⟨here, tells⟩ := List.forall_mem_cons.1 tells
    have split : (item :: rest).filterMap Item.argument? = item.argument?.toList ++ rest.filterMap Item.argument? := by
      cases h : item.argument? <;> simp [h]
    rw [split, List.nodup_append] at once
    obtain ⟨-, once, apart⟩ := once
    have new : ∀ a ∈ item.argument?, a ∉ rest.filterMap Item.argument? := fun a mem later =>
      apart a (Option.mem_toList.2 mem) a later rfl
    rw [split, List.map_cons, takeWords, takeWord_item here new, ok_bind]
    by_cases flag : item = .verbose
    · rw [if_pos flag, ih tells once (countFlag_le k), flag, List.count_cons_self]
      congr 2
      simp only [countFlag]
      omega
    · rw [if_neg flag, ih tells once small, List.count_cons_of_ne flag]

end Reading

/-! ## Commands -/

namespace Found

/-- The value of an option as a user would write it. -/
def text? (f : Found) : OptionName → Option String
  | .segment => f.segment.map (toString ·.toNat)
  | .start => f.start.map (toString ·.toNat)
  | .length => f.length.map (toString ·.toNat)
  | .key => f.key
  | .adminKey => f.adminKey
  | .psid => f.psid

/-- Nothing has been found that the verb does not take. -/
structure Fits (f : Found) (v : Verb) : Prop where
  device : f.device.isSome = true → v.takesDevice = true
  options : ∀ name, f.has name = true → name ∈ v.options.map (·.name)

theorem isSome_text? (f : Found) (name : OptionName) : (f.text? name).isSome = f.has name := by
  cases name <;> simp [text?, has]

/-- A value is read back from its text. -/
theorem set_of_text? {f : Found} {name : OptionName} {value : String} (text : f.text? name = some value) :
    f.set name value = .ok f := by
  cases name with
  | segment =>
    obtain ⟨n, holds, rfl⟩ := Option.map_eq_some_iff.1 text
    rw [set, readSegment_toString, ok_bind, ← holds]
    rfl
  | start | length =>
    obtain ⟨n, holds, rfl⟩ := Option.map_eq_some_iff.1 text
    rw [set, readUnsigned_toString, ok_bind, ← holds]
    rfl
  | key | adminKey | psid =>
    rw [text?] at text
    rw [set, ← text]

theorem ite_none_of_isSome {α : Type} {p : Prop} [Decidable p] {o : Option α} (covered : o.isSome = true → p) :
    (if p then none else o) = none := by
  cases o <;> simp_all

/-- Nothing is left when everything that has been found is taken away. -/
theorem lacking_all {f : Found} {arguments : List Argument} (device : f.device.isSome = true → .device ∈ arguments)
    (options : ∀ name, f.has name = true → .option name ∈ arguments) : f.lacking arguments = {} := by
  simp only [lacking, mk.injEq]
  exact ⟨ite_none_of_isSome device, ite_none_of_isSome (options .segment), ite_none_of_isSome (options .start),
    ite_none_of_isSome (options .length), ite_none_of_isSome (options .key), ite_none_of_isSome (options .adminKey),
    ite_none_of_isSome (options .psid)⟩

end Found

namespace Command

/-- What is found when all of a command has been read. -/
def found : Command → Found
  | .docs => {}
  | .act device action =>
    match action with
    | .status | .geometry => { device }
    | .setup segment start length key adminKey => { device, segment, start, length, key, adminKey }
    | .lock segment => { device, segment }
    | .unlock segment key => { device, segment, key }
    | .check segment start length key => { device, segment, start, length, key }
    | .factoryReset psid => { device, psid }
    | .resetSegment segment adminKey => { device, segment, adminKey }

/-- The options of a command with their values, as texts. -/
def optionValues : Command → List (OptionName × String)
  | .docs => []
  | .act _ action => action.optionValues

/-- The words of a command by what they tell. -/
def items (c : Command) : List Item :=
  c.device?.toList.map .device ++ c.optionValues.map fun (name, value) => .option name value

theorem words_eq_map_items (c : Command) : c.words = c.items.map Item.word := by
  cases c with
  | docs => rfl
  | act device action => simp [words, items, Item.word, device?, optionValues]

theorem device_found (c : Command) : c.found.device = c.device? := by
  cases c with
  | docs => rfl
  | act device action => cases action <;> rfl

theorem found_fits (c : Command) : c.found.Fits c.verb where
  device := by
    cases c with
    | docs => simp [found]
    | act device action => cases action <;> simp [found, verb, Action.verb] <;> rfl
  options name := by
    cases c with
    | docs => cases name <;> simp [found, Found.has]
    | act device action =>
      cases action <;> cases name <;>
        simp [found, Found.has, verb, Action.verb, Verb.options, Verb.segmentOption, Verb.userKeyOption,
          Verb.adminKeyOption]

theorem optionValues_eq (c : Command) :
    c.optionValues = (c.verb.options.map (·.name)).filterMap fun name => (c.found.text? name).map (name, ·) := by
  cases c with
  | docs => rfl
  | act device action =>
    cases action with
    | status | geometry | lock => rfl
    | setup _ _ _ key adminKey => cases key <;> cases adminKey <;> rfl
    | unlock _ key => cases key <;> rfl
    | check _ start length key => cases start <;> cases length <;> cases key <;> rfl
    | factoryReset psid => cases psid <;> rfl
    | resetSegment _ adminKey => cases adminKey <;> rfl

theorem mem_optionValues {c : Command} {name : OptionName} {value : String} :
    (name, value) ∈ c.optionValues ↔ c.found.text? name = some value := by
  rw [optionValues_eq, List.mem_filterMap]
  constructor
  · rintro ⟨other, -, pair⟩
    obtain ⟨text, here, same⟩ := Option.map_eq_some_iff.1 pair
    cases same
    exact here
  · intro text
    have has : c.found.has name = true := by rw [← Found.isSome_text?, text, Option.isSome_some]
    exact ⟨name, c.found_fits.options name has, by rw [text, Option.map_some]⟩

/-- No option is written twice. -/
theorem nodup_optionValues (c : Command) : (c.optionValues.map Prod.fst).Nodup := by
  have names : (c.verb.options.map (·.name)).Nodup := by cases c.verb <;> decide
  rw [optionValues_eq, List.map_filterMap]
  -- Each entry bears the name that it stands for.
  have own {name option : OptionName}
      (mem : option ∈ ((c.found.text? name).map (name, ·)).map Prod.fst) : name = option := by
    cases text : c.found.text? name <;> simp_all
  exact List.Nodup.filterMap (fun _ _ _ here there => (own here).trans (own there).symm) names

theorem command?_found (c : Command) : c.found.command? c.verb = some c := by
  cases c with
  | docs => rfl
  | act device action => cases action <;> rfl

theorem missing_found (c : Command) : c.found.missing c.verb = [] := by
  cases c with
  | docs => rfl
  | act device action => cases action <;> rfl

/-! ### Items -/

theorem arguments_items (c : Command) :
    c.items.filterMap Item.argument? =
      c.device?.toList.map (fun _ => .device) ++ (c.optionValues.map Prod.fst).map .option := by
  simp [items, List.filterMap_append, List.filterMap_map, Function.comp_def, Item.argument?]

theorem nodup_arguments (c : Command) : (c.items.filterMap Item.argument?).Nodup := by
  have options : ((c.optionValues.map Prod.fst).map Argument.option).Nodup :=
    c.nodup_optionValues.map fun _ _ same => Argument.option.inj same
  rw [arguments_items]
  cases c.device? with
  | none => exact options
  | some device => exact List.nodup_cons.2 ⟨by simp, options⟩

theorem lacking_arguments (c : Command) : c.found.lacking (c.items.filterMap Item.argument?) = {} := by
  apply Found.lacking_all
  · intro device
    obtain ⟨word, device⟩ := Option.isSome_iff_exists.1 (c.device_found ▸ device)
    simp [arguments_items, device]
  · intro name has
    obtain ⟨value, text⟩ := Option.isSome_iff_exists.1 (c.found.isSome_text? name ▸ has)
    rw [arguments_items]
    exact List.mem_append_right _ (List.mem_map_of_mem (List.mem_map_of_mem (f := Prod.fst) (mem_optionValues.2 text)))

theorem items_tell {c : Command} (noDash : ∀ device ∈ c.device?, device.toList.head? ≠ some '-') {item : Item}
    (mem : item ∈ c.items) : item.Tells c.verb c.found := by
  rw [items, List.mem_append, List.mem_map, List.mem_map] at mem
  rcases mem with ⟨device, here, rfl⟩ | ⟨⟨name, value⟩, here, rfl⟩
  · have here := Option.mem_toList.1 here
    have found : c.found.device = some device := c.device_found.trans here
    exact ⟨c.found_fits.device (by rw [found, Option.isSome_some]), noDash device here, found⟩
  · have text := mem_optionValues.1 here
    have has : c.found.has name = true := by rw [← Found.isSome_text?, text, Option.isSome_some]
    exact ⟨c.found_fits.options name has, Found.set_of_text? text⟩

theorem count_verbose_items (c : Command) : c.items.count .verbose = 0 := by
  simp [items, List.count_eq_zero]

end Command

/-! ## Command lines -/

theorem Verb.ofName?_name (v : Verb) : Verb.ofName? v.name = some v := by
  cases v <;> decide

theorem Verb.name_ne_helpWord (v : Verb) : v.name ≠ helpWord := by
  cases v <;> decide

theorem parse_verb (program : String) (v : Verb) (words : List String) :
    parse (program :: v.name :: words) = parseVerb (calledName program) 0 v words := by
  rw [parse]
  unfold parseWords
  rw [if_neg v.name_ne_helpWord, Verb.ofName?_name]

namespace Invocation

/-- The items of an invocation: those of its command, and the flag as often as it is given. -/
def items (i : Invocation) : List Item :=
  i.command.items ++ List.replicate i.verbosity .verbose

/-- Written words are the words of the items in some order. -/
theorem Written.exists_items {i : Invocation} {words : List String} (written : i.Written words) :
    ∃ items : List Item, words = items.map Item.word ∧ items.Perm i.items := by
  have told : i.command.words ++ List.replicate i.verbosity Flag.verbose.word = i.items.map Item.word := by
    rw [items, List.map_append, List.map_replicate, i.command.words_eq_map_items]
    rfl
  have perm : words.Perm (i.items.map Item.word) := told ▸ written
  exact (congrFun (congrFun (List.eq_map_comp_perm Item.word) words) i.items).mpr perm

theorem arguments_items (i : Invocation) :
    i.items.filterMap Item.argument? = i.command.items.filterMap Item.argument? := by
  simp [items, Item.argument?]

theorem count_verbose_items (i : Invocation) : i.items.count .verbose = i.verbosity := by
  simp [items, i.command.count_verbose_items]

theorem items_tell {i : Invocation} (noDash : ∀ device ∈ i.command.device?, device.toList.head? ≠ some '-')
    {item : Item} (mem : item ∈ i.items) : item.Tells i.command.verb i.command.found := by
  rcases List.mem_append.1 mem with mem | mem
  · exact Command.items_tell noDash mem
  · rw [List.eq_of_mem_replicate mem]
    trivial

end Invocation

/-- Words of a command are read as this command, in any order. -/
theorem parse_written {i : Invocation} {words : List String} (program : String)
    (noDash : ∀ device ∈ i.command.device?, device.toList.head? ≠ some '-') (written : i.Written words) :
    parse (program :: i.command.verb.name :: words) = .ok { i with verbosity := min i.verbosity 255 } := by
  obtain ⟨items, rfl, perm⟩ := written.exists_items
  have arguments : (items.filterMap Item.argument?).Perm (i.command.items.filterMap Item.argument?) :=
    i.arguments_items ▸ perm.filterMap Item.argument?
  have start : i.command.found.lacking (items.filterMap Item.argument?) = {} :=
    (Found.lacking_congr _ fun _ => arguments.mem_iff).trans i.command.lacking_arguments
  have tells : ∀ item ∈ items, item.Tells i.command.verb i.command.found := fun item mem =>
    Invocation.items_tell noDash (perm.mem_iff.1 mem)
  have once : (items.filterMap Item.argument?).Nodup := arguments.nodup_iff.2 i.command.nodup_arguments
  have read := Reading.takeWords_items (calledName program) tells once (Nat.zero_le 255)
  rw [start, perm.count_eq, i.count_verbose_items, Nat.zero_add] at read
  rw [parse_verb, parseVerb, read, ok_bind]
  simp only [Reading.settle, ok_bind, i.command.missing_found, i.command.command?_found]
  by_cases quiet : min i.verbosity 255 = 0
  · rw [if_pos quiet, quiet]
    rfl
  · rw [if_neg quiet]
    rfl

end OpalLocking.CommandLine
