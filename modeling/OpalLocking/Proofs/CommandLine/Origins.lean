/-
Where the arguments of a command come from.

What a word gives does not depend on what has been read before it, but for the value that an option in front of it waits
for. So the positional arguments and the values of each key option are read off the words alone (`Verb.positionals`,
`OptionName.valuesIn`), and what a reading has found of them, with what its words still give, is the same at every word.
-/
import OpalLocking.Proofs.CommandLine.RoundTrip

namespace OpalLocking.CommandLine

/-! ## What words give -/

namespace Verb

/-- Letters end in an option that waits for its value. -/
def lettersAwait (v : Verb) : List Char → Bool
  | [] => false
  | letter :: rest =>
    if (Flag.ofShort? Flag.afterVerb letter).isSome then v.lettersAwait rest
    else (v.shortOption? letter).isSome && rest.isEmpty

/-- A word leaves an option waiting for its value. -/
def awaitsValue (v : Verb) : Word → Bool
  | .long name none => (v.longOption? name).isSome
  | .letters text => v.lettersAwait text
  | .long _ (some _) | .plain | .endOfOptions => false

/-- The positional arguments among words: the plain ones that no option waits for, and all words behind two dashes.
`awaited` says that an option waits for the first word. -/
def positionals (v : Verb) (awaited : Bool) : List String → List String
  | [] => []
  | word :: rest =>
    match Word.ofString word with
    | .endOfOptions => rest
    | .plain => if awaited then v.positionals false rest else word :: v.positionals false rest
    | shape => v.positionals (v.awaitsValue shape) rest

/-- The first verb among words, with the words behind it. -/
def first? : List String → Option (Verb × List String)
  | [] => none
  | word :: rest =>
    match ofName? word with
    | some v => some (v, rest)
    | none => first? rest

end Verb

namespace OptionName

/-- The options whose values are keys. -/
def keys : List OptionName :=
  [.key, .adminKey, .psid]

/-- The values that words give an option by its long name, attached to it or as the word behind it. -/
def valuesIn (name : OptionName) : List String → List String
  | [] => []
  | word :: rest =>
    match Word.ofString word with
    | .endOfOptions => []
    | .long long value =>
      if long = name.long then (value <|> rest.head?).toList ++ name.valuesIn rest else name.valuesIn rest
    | .letters _ | .plain => name.valuesIn rest

end OptionName

/-! ## Names -/

theorem Word.ofString_ne_letters_nil (word : String) : Word.ofString word ≠ .letters [] := by
  unfold Word.ofString Word.ofList
  split <;> simp_all

theorem Verb.longOption?_eq_some {v : Verb} {long : String} {name : OptionName}
    (found : v.longOption? long = some name) : name ∈ v.options.map (·.name) ∧ long = name.long := by
  have same : name.long = long := by simpa using List.find?_some found
  exact ⟨List.mem_of_find?_eq_some found, same.symm⟩

/-- No key has a letter. -/
theorem Verb.shortOption?_eq_some {v : Verb} {letter : Char} {name : OptionName}
    (found : v.shortOption? letter = some name) :
    name ∈ v.options.map (·.name) ∧ name ∉ OptionName.keys := by
  have letter : name.short? = some letter := by simpa using List.find?_some found
  refine ⟨List.mem_of_find?_eq_some found, ?_⟩
  cases name with
  | segment => decide
  | start | length | key | adminKey | psid => cases letter

theorem Flag.ofLong?_ne_long {long : String} {flag : Flag} (found : Flag.ofLong? Flag.afterVerb long = some flag)
    (name : OptionName) : long ≠ name.long := by
  rintro rfl
  rw [Flag.ofLong?_long] at found
  cases found

/-! ## Readings -/

/-- An option is given its value, and nothing else changes. -/
theorem Found.of_set {f g : Found} {name : OptionName} {value : String} (set : f.set name value = .ok g) :
    g.device = f.device ∧ (∀ other, g.has other = true → other = name ∨ f.has other = true) ∧
      ∀ other ∈ OptionName.keys, g.text? other = if name = other then some value else f.text? other := by
  cases name with
  | segment | start | length =>
    obtain ⟨n, -, same⟩ := bind_eq_ok.1 set
    cases same
    refine ⟨rfl, fun other => ?_, by simp [OptionName.keys, text?]⟩
    cases other <;> simp [has]
  | key | adminKey | psid =>
    cases set
    refine ⟨rfl, fun other => ?_, by simp [OptionName.keys, text?]⟩
    cases other <;> simp [has]

theorem Found.Fits.of_set {f g : Found} {v : Verb} {name : OptionName} {value : String} (fits : f.Fits v)
    (known : name ∈ v.options.map (·.name)) (set : f.set name value = .ok g) : g.Fits v := by
  obtain ⟨device, has, -⟩ := Found.of_set set
  refine ⟨fun given => fits.device (device ▸ given), fun other given => ?_⟩
  rcases has other given with rfl | given
  · exact known
  · exact fits.options other given

theorem Found.text?_eq_none {f : Found} {name : OptionName} (new : f.has name = false) : f.text? name = none := by
  rw [← f.isSome_text?] at new
  exact Option.not_isSome_iff_eq_none.1 (by simp [new])

namespace Reading

/-- The option that waits for its value. -/
def awaited (r : Reading) : Option OptionName :=
  match r.pending with
  | some (name, none) => some name
  | _ => none

/-- The values of an option that have been read. -/
def values (r : Reading) (name : OptionName) : List String :=
  (r.found.text? name).toList ++
    match r.pending with
    | some (other, some value) => if other = name then [value] else []
    | _ => []

/-- The positional arguments that have been read and that words still give. -/
def positionals (r : Reading) (v : Verb) (words : List String) : List String :=
  r.found.device.toList ++ if r.plainOnly then words else v.positionals r.awaited.isSome words

/-- The values of an option that have been read and that words still give. -/
def given (r : Reading) (name : OptionName) (words : List String) : List String :=
  r.values name ++
    if r.plainOnly then [] else (if r.awaited = some name then words.head?.toList else []) ++ name.valuesIn words

/-- Nothing has been read that the verb does not take. -/
structure Fits (r : Reading) (v : Verb) : Prop where
  found : r.found.Fits v
  pending : ∀ name value, r.pending = some (name, value) → name ∈ v.options.map (·.name)

/-- A reading goes on to another one by a positional argument or by values of options, and leaves an option waiting. -/
structure Reads (v : Verb) (r s : Reading) (devices : List String) (given : OptionName → List String)
    (awaited : Option OptionName) : Prop where
  fits : s.Fits v
  device : s.found.device.toList = r.found.device.toList ++ devices
  values : ∀ name ∈ OptionName.keys, s.values name = r.values name ++ given name
  free : r.awaited = none
  awaited : s.awaited = awaited
  plainOnly : s.plainOnly = r.plainOnly

variable {v : Verb} {r s t : Reading} {program : Option String}

theorem Reads.trans {devices later : List String} {given afterwards : OptionName → List String}
    {waiting : Option OptionName} (first : r.Reads v s devices given none)
    (second : s.Reads v t later afterwards waiting) :
    r.Reads v t (devices ++ later) (fun name => given name ++ afterwards name) waiting where
  fits := second.fits
  device := by rw [second.device, first.device, List.append_assoc]
  values name key := by rw [second.values name key, first.values name key, List.append_assoc]
  free := first.free
  awaited := second.awaited
  plainOnly := second.plainOnly.trans first.plainOnly

theorem store_reads {name : OptionName} {value : String} (fits : r.Fits v) (known : name ∈ v.options.map (·.name))
    (settled : r.pending = none) (stored : r.store name value = .ok s) :
    r.Reads v s [] (fun other => if name = other then [value] else []) none ∧ s.pending = none := by
  unfold store at stored
  split at stored
  · cases stored
  · rename_i new
    split at stored
    · rename_i found set
      cases stored
      obtain ⟨device, -, texts⟩ := Found.of_set set
      have waiting : r.awaited = none := by simp [awaited, settled]
      refine ⟨⟨⟨fits.found.of_set known set, fits.pending⟩, by simp [device], ?_, waiting, waiting, rfl⟩, settled⟩
      intro other mem
      simp only [values, settled, texts other mem]
      by_cases same : name = other
      · subst same
        simp [Found.text?_eq_none (Bool.eq_false_iff.2 new)]
      · simp [same]
    · cases stored

/-- Settling gives nothing new: the value that it stores has been read before. -/
theorem settle_reads (fits : r.Fits v) (settled : r.settle = .ok s) :
    r.Reads v s [] (fun _ => []) none ∧ s.pending = none := by
  unfold settle at settled
  split at settled
  · rename_i pending
    cases settled
    exact ⟨⟨fits, by simp, by simp, by simp [awaited, pending], by simp [awaited, pending], rfl⟩, pending⟩
  · cases settled
  · rename_i name value pending
    have cleared : ({ r with pending := none } : Reading).Fits v := ⟨fits.found, fun _ _ same => nomatch same⟩
    obtain ⟨reads, settled⟩ := store_reads cleared (fits.pending name _ pending) rfl settled
    refine ⟨⟨reads.fits, reads.device, ?_, by simp [awaited, pending], reads.awaited, reads.plainOnly⟩, settled⟩
    intro other mem
    rw [reads.values other mem]
    simp [values, pending]

theorem takeFlag_reads {topic : HelpTopic} {flag : Flag} (fits : r.Fits v)
    (taken : r.takeFlag program topic flag = .ok s) : r.Reads v s [] (fun _ => []) none := by
  obtain ⟨settled, ok, taken⟩ := bind_eq_ok.1 taken
  obtain ⟨reads, -⟩ := settle_reads fits ok
  cases flag with
  | verbose =>
    cases taken
    exact { reads with fits := ⟨reads.fits.found, reads.fits.pending⟩ }
  | help | version => cases taken

theorem takeOption_reads {name : OptionName} {value : Option String} (fits : r.Fits v)
    (known : name ∈ v.options.map (·.name)) (taken : r.takeOption name value = .ok s) :
    r.Reads v s [] (fun other => if name = other then value.toList else [])
      (if value.isSome then none else some name) := by
  obtain ⟨settled, ok, taken⟩ := bind_eq_ok.1 taken
  obtain ⟨reads, pending⟩ := settle_reads fits ok
  cases value with
  | some value => exact reads.trans (store_reads reads.fits known pending taken).1
  | none =>
    cases taken
    refine ⟨⟨reads.fits.found, ?_⟩, reads.device, ?_, reads.free, rfl, reads.plainOnly⟩
    · rintro other value same
      cases same
      exact known
    · intro other mem
      have before := reads.values other mem
      simp only [values, pending] at before
      simpa [values] using before

theorem takePlain_reads {word : String} (fits : r.Fits v) (taken : r.takePlain v word = .ok s) :
    r.Reads v s [word] (fun _ => []) none := by
  unfold takePlain at taken
  split at taken
  · rename_i free
    obtain ⟨takes, empty⟩ := Bool.and_eq_true_iff.1 free
    obtain ⟨settled, ok, taken⟩ := bind_eq_ok.1 taken
    obtain ⟨reads, pending⟩ := settle_reads fits ok
    cases taken
    have found : ({ settled.found with device := some word } : Found).Fits v :=
      ⟨fun _ => takes, fun name has => reads.fits.found.options name (by cases name <;> exact has)⟩
    refine { reads with fits := ⟨found, reads.fits.pending⟩, device := ?_, values := fun name mem => ?_ }
    · simp [Option.isNone_iff_eq_none.1 empty]
    · rw [← reads.values name mem]
      cases name <;> rfl
  · cases taken

/-- A letter of an option gives no key its value. -/
theorem takeOption_reads_letter {letter : Char} {name : OptionName} {value : Option String} (fits : r.Fits v)
    (found : v.shortOption? letter = some name) (taken : r.takeOption name value = .ok s) :
    r.Reads v s [] (fun _ => []) (if value.isSome then none else some name) := by
  obtain ⟨known, notKey⟩ := Verb.shortOption?_eq_some found
  have reads := takeOption_reads fits known taken
  refine { reads with values := fun other mem => ?_ }
  have apart : name ≠ other := fun same => notKey (same ▸ mem)
  simpa [apart] using reads.values other mem

theorem takeLetters_reads {letters : List Char} (fits : r.Fits v) (nonempty : letters ≠ [])
    (taken : r.takeLetters program v letters = .ok s) :
    ∃ waiting, r.Reads v s [] (fun _ => []) waiting ∧ waiting.isSome = v.lettersAwait letters ∧
      ∀ name ∈ OptionName.keys, waiting ≠ some name := by
  induction letters generalizing r with
  | nil => exact absurd rfl nonempty
  | cons letter rest ih =>
    rw [takeLetters] at taken
    split at taken
    · rename_i flag found
      obtain ⟨flagged, ok, taken⟩ := bind_eq_ok.1 taken
      have reads := takeFlag_reads fits ok
      cases rest with
      | nil =>
        cases taken
        exact ⟨none, reads, by simp [Verb.lettersAwait, found], by simp⟩
      | cons next rest =>
        obtain ⟨waiting, later, awaits, keys⟩ := ih reads.fits (List.cons_ne_nil _ _) taken
        exact ⟨waiting, reads.trans later, by simpa [Verb.lettersAwait, found] using awaits, keys⟩
    · rename_i name unflagged found
      have notKey := (Verb.shortOption?_eq_some found).2
      cases rest with
      | nil =>
        refine ⟨_, takeOption_reads_letter fits found taken, by simp [Verb.lettersAwait, unflagged, found], ?_⟩
        rintro other mem same
        cases same
        exact notKey mem
      | cons next rest =>
        have ends : v.lettersAwait (letter :: next :: rest) = false := by
          simp [Verb.lettersAwait, unflagged]
        split at taken
        · contradiction
        all_goals exact ⟨none, takeOption_reads_letter fits found taken, ends.symm, by simp⟩
    · cases taken

theorem takeLong_reads {long : String} {value : Option String} (fits : r.Fits v)
    (taken : r.takeLong program v long value = .ok s) :
    ∃ waiting, r.Reads v s [] (fun other => if long = other.long then value.toList else []) waiting ∧
      waiting.isSome = v.awaitsValue (.long long value) ∧
      ∀ name, waiting = some name ↔ value = none ∧ long = name.long := by
  unfold takeLong at taken
  split at taken
  · rename_i flag found
    have other := Flag.ofLong?_ne_long found
    have unknown : v.longOption? long = none :=
      Option.eq_none_iff_forall_ne_some.2 fun name known => other name (Verb.longOption?_eq_some known).2
    split at taken
    · cases taken
    · have reads := takeFlag_reads fits taken
      exact ⟨none, by simpa [other] using reads, by simp [Verb.awaitsValue, unknown], by simp [other]⟩
  · rename_i name unflagged found
    obtain ⟨known, rfl⟩ := Verb.longOption?_eq_some found
    have own (other : OptionName) : name.long = other.long ↔ name = other := ⟨OptionName.long_inj, congrArg _⟩
    refine ⟨_, by simpa only [own] using takeOption_reads fits known taken, ?_, ?_⟩
    · cases value <;> simp [Verb.awaitsValue, found]
    · cases value <;> simp [own]
  · cases taken

/-! ## Whole readings -/

/-- Over a word, what has been read and what words still give stay the same. -/
structure Keeps (v : Verb) (r : Reading) (word : String) (s : Reading) : Prop where
  fits : s.Fits v
  positionals : ∀ rest, r.positionals v (word :: rest) = s.positionals v rest
  given : ∀ name ∈ OptionName.keys, ∀ rest, r.given name (word :: rest) = s.given name rest

variable {word : String}

/-- The word ends the options, and no option waits for it. -/
theorem keeps_endOfOptions (fits : r.Fits v) (options : r.plainOnly = false)
    (shape : Word.ofString word = .endOfOptions) (free : r.awaited = none) : r.Keeps v word { r with plainOnly := true } where
  fits := ⟨fits.found, fits.pending⟩
  positionals rest := by simp [positionals, options, Verb.positionals, shape]
  given name _ rest := by simp [given, options, free, OptionName.valuesIn, shape, values]

/-- The word is the value that an option waits for. -/
theorem keeps_value {name : OptionName} (fits : r.Fits v) (options : r.plainOnly = false)
    (shape : Word.ofString word = .plain) (pending : r.pending = some (name, none)) :
    r.Keeps v word { r with pending := some (name, some word) } where
  fits := by
    refine ⟨fits.found, ?_⟩
    rintro other value same
    cases same
    exact fits.pending name none pending
  positionals rest := by simp [positionals, options, awaited, pending, Verb.positionals, shape]
  given other _ rest := by
    by_cases same : name = other <;>
      simp [given, options, awaited, pending, values, OptionName.valuesIn, shape, same]

namespace Reads

theorem keeps_plainOnly (reads : r.Reads v s [word] (fun _ => []) none) (plain : r.plainOnly = true) :
    r.Keeps v word s where
  fits := reads.fits
  positionals rest := by simp [positionals, plain, reads.plainOnly, reads.device]
  given name mem rest := by simp [Reading.given, plain, reads.plainOnly, reads.values name mem]

theorem keeps_plain (reads : r.Reads v s [word] (fun _ => []) none) (options : r.plainOnly = false)
    (shape : Word.ofString word = .plain) : r.Keeps v word s where
  fits := reads.fits
  positionals rest := by
    simp [positionals, options, reads.plainOnly, reads.device, reads.free, reads.awaited, Verb.positionals, shape]
  given name mem rest := by
    simp [Reading.given, options, reads.plainOnly, reads.values name mem, reads.free, reads.awaited,
      OptionName.valuesIn, shape]

theorem keeps_letters {letters : List Char} {waiting : Option OptionName}
    (reads : r.Reads v s [] (fun _ => []) waiting) (options : r.plainOnly = false)
    (shape : Word.ofString word = .letters letters) (awaits : waiting.isSome = v.lettersAwait letters)
    (keys : ∀ name ∈ OptionName.keys, waiting ≠ some name) : r.Keeps v word s where
  fits := reads.fits
  positionals rest := by
    simp [positionals, options, reads.plainOnly, reads.device, reads.awaited, awaits, Verb.positionals, shape,
      Verb.awaitsValue]
  given name mem rest := by
    simp [Reading.given, options, reads.plainOnly, reads.values name mem, reads.free, reads.awaited, keys name mem,
      OptionName.valuesIn, shape]

theorem keeps_long {long : String} {value : Option String} {waiting : Option OptionName}
    (reads : r.Reads v s [] (fun other => if long = other.long then value.toList else []) waiting)
    (options : r.plainOnly = false) (shape : Word.ofString word = .long long value)
    (awaits : waiting.isSome = v.awaitsValue (.long long value))
    (names : ∀ name, waiting = some name ↔ value = none ∧ long = name.long) : r.Keeps v word s where
  fits := reads.fits
  positionals rest := by
    simp [positionals, options, reads.plainOnly, reads.device, reads.awaited, awaits, Verb.positionals, shape]
  given name mem rest := by
    simp only [Reading.given, options, reads.plainOnly, reads.values name mem, reads.free, reads.awaited, names,
      OptionName.valuesIn, shape]
    cases value <;> by_cases same : long = name.long <;> simp [same]

end Reads

/-- Only an option that waits for its value behind two dashes would break this. -/
theorem takeWord_keeps (fits : r.Fits v) (taken : r.takeWord program v word = .ok s)
    (live : s.plainOnly = true → s.awaited = none) : r.Keeps v word s := by
  unfold takeWord at taken
  split at taken
  · rename_i plain
    exact (takePlain_reads fits taken).keeps_plainOnly plain
  · rename_i options
    have options : r.plainOnly = false := Bool.eq_false_iff.2 options
    split at taken
    · rename_i shape
      cases taken
      exact keeps_endOfOptions fits options shape (live rfl)
    · rename_i long value shape
      obtain ⟨waiting, reads, awaits, names⟩ := takeLong_reads fits taken
      exact reads.keeps_long options shape awaits names
    · rename_i letters shape
      have nonempty : letters ≠ [] := fun same => Word.ofString_ne_letters_nil word (same ▸ shape)
      obtain ⟨waiting, reads, awaits, keys⟩ := takeLetters_reads fits nonempty taken
      exact reads.keeps_letters options shape awaits keys
    · rename_i shape
      split at taken
      · rename_i name pending
        cases taken
        exact keeps_value fits options shape pending
      · exact (takePlain_reads fits taken).keeps_plain options shape

/-- An option that waits for its value behind two dashes waits in vain. -/
theorem takeWords_of_awaited {words : List String} {name : OptionName} (plain : r.plainOnly = true)
    (waits : r.pending = some (name, none)) (read : r.takeWords program v words = .ok s) : s.settle ≠ .ok t := by
  cases words with
  | nil =>
    cases read
    simp [settle, waits]
  | cons word rest =>
    obtain ⟨next, ok, -⟩ := bind_eq_ok.1 read
    rw [takeWord, if_pos plain, takePlain, settle, waits] at ok
    split at ok <;> cases ok

theorem awaited_eq_some {name : OptionName} : r.awaited = some name ↔ r.pending = some (name, none) := by
  unfold awaited
  split <;> simp_all

/-- All positional arguments and all values of key options end up in what has been found. -/
theorem takeWords_found {words : List String} (fits : r.Fits v) (read : r.takeWords program v words = .ok s)
    (settled : s.settle = .ok t) :
    t.found.Fits v ∧ r.positionals v words = t.found.device.toList ∧
      ∀ name ∈ OptionName.keys, r.given name words = (t.found.text? name).toList := by
  induction words generalizing r with
  | nil =>
    cases read
    obtain ⟨reads, pending⟩ := settle_reads fits settled
    refine ⟨reads.fits.found, ?_, fun name mem => ?_⟩
    · simp [positionals, Verb.positionals, reads.device]
    · have kept := reads.values name mem
      simp only [values, pending, List.append_nil] at kept
      simp [given, OptionName.valuesIn, reads.free, values, kept]
  | cons word rest ih =>
    obtain ⟨next, taken, read⟩ := bind_eq_ok.1 read
    have live : next.plainOnly = true → next.awaited = none := fun plain =>
      Option.eq_none_iff_forall_ne_some.2 fun name waits =>
        takeWords_of_awaited plain (awaited_eq_some.1 waits) read settled
    have keeps := takeWord_keeps fits taken live
    obtain ⟨found, device, texts⟩ := ih keeps.fits read
    refine ⟨found, (keeps.positionals rest).trans device, fun name mem => ?_⟩
    exact (keeps.given name mem rest).trans (texts name mem)

end Reading

/-! ## Command lines -/

namespace Found

/-- A command takes the arguments of its verb from what has been found. -/
theorem command?_eq_some {f : Found} {v : Verb} {c : Command} (made : f.command? v = some c) :
    c.verb = v ∧ (v.takesDevice = true → c.device? = f.device) ∧
      ∀ name ∈ v.options.map (·.name), c.found.text? name = f.text? name := by
  cases v with
  | docs =>
    cases made
    exact ⟨rfl, nofun, by simp [Verb.options]⟩
  | status | geometry | factoryReset =>
    obtain ⟨_, device, made⟩ := Option.bind_eq_some_iff.1 made
    cases made
    exact ⟨rfl, fun _ => device.symm, by simp [Verb.options, Command.found, text?]⟩
  | lock | unlock | check | resetSegment =>
    obtain ⟨_, device, made⟩ := Option.bind_eq_some_iff.1 made
    obtain ⟨_, segment, made⟩ := Option.bind_eq_some_iff.1 made
    cases made
    refine ⟨rfl, fun _ => device.symm, ?_⟩
    simp [Verb.options, Verb.segmentOption, Verb.userKeyOption, Verb.adminKeyOption, Command.found, text?, segment]
  | setup =>
    obtain ⟨_, device, made⟩ := Option.bind_eq_some_iff.1 made
    obtain ⟨_, segment, made⟩ := Option.bind_eq_some_iff.1 made
    obtain ⟨_, start, made⟩ := Option.bind_eq_some_iff.1 made
    obtain ⟨_, length, made⟩ := Option.bind_eq_some_iff.1 made
    cases made
    refine ⟨rfl, fun _ => device.symm, ?_⟩
    simp [Verb.options, Verb.segmentOption, Verb.adminKeyOption, Command.found, text?, segment, start, length]

theorem Fits.device_eq_none {f : Found} {v : Verb} (fits : f.Fits v) (takes : v.takesDevice ≠ true) : f.device = none :=
  Option.not_isSome_iff_eq_none.1 (mt fits.device takes)

theorem Fits.text?_eq_none {f : Found} {v : Verb} (fits : f.Fits v) {name : OptionName}
    (unknown : name ∉ v.options.map (·.name)) : f.text? name = none :=
  Found.text?_eq_none (Bool.eq_false_iff.2 (mt (fits.options name) unknown))

/-- Of what a verb takes, nothing that has been found is lost. -/
theorem Fits.of_command? {f : Found} {v : Verb} {c : Command} (fits : f.Fits v) (made : f.command? v = some c) :
    c.verb = v ∧ c.device? = f.device ∧ ∀ name, c.found.text? name = f.text? name := by
  obtain ⟨rfl, device, texts⟩ := command?_eq_some made
  refine ⟨rfl, ?_, fun name => ?_⟩
  · by_cases takes : c.verb.takesDevice = true
    · exact device takes
    · rw [← c.device_found, c.found_fits.device_eq_none takes, fits.device_eq_none takes]
  · by_cases known : name ∈ c.verb.options.map (·.name)
    · exact texts name known
    · rw [c.found_fits.text?_eq_none known, fits.text?_eq_none known]

end Found

theorem lookup_filterMap (text? : OptionName → Option String) (names : List OptionName) (name : OptionName) :
    (names.filterMap fun other => (text? other).map (other, ·)).lookup name =
      if name ∈ names then text? name else none := by
  induction names with
  | nil => rfl
  | cons other rest ih =>
    by_cases same : name = other
    · subst same
      cases text : text? name <;> simp [text, ih]
    · cases text : text? other <;> simp [text, ih, same, List.lookup_cons, beq_false_of_ne same]

theorem Command.lookup_optionValues (c : Command) (name : OptionName) :
    c.optionValues.lookup name = c.found.text? name := by
  rw [c.optionValues_eq, lookup_filterMap]
  split
  · rfl
  · rename_i unknown
    exact (c.found_fits.text?_eq_none unknown).symm

/-- What behind a verb is read as a command. -/
theorem parseVerb_origins {program : Option String} {k : Nat} {v : Verb} {words : List String} {i : Invocation}
    (parsed : parseVerb program k v words = .ok i) :
    i.command.verb = v ∧ v.positionals false words = i.command.device?.toList ∧
      ∀ name ∈ OptionName.keys, name.valuesIn words = (i.command.optionValues.lookup name).toList := by
  obtain ⟨read, taken, parsed⟩ := bind_eq_ok.1 parsed
  obtain ⟨settled, ok, parsed⟩ := bind_eq_ok.1 parsed
  have fits : ({} : Reading).Fits v := ⟨⟨nofun, fun name => by cases name <;> exact nofun⟩, nofun⟩
  obtain ⟨found, device, values⟩ := Reading.takeWords_found fits taken ok
  split at parsed
  · rename_i command missing made
    cases parsed
    obtain ⟨verb, named, texts⟩ := found.of_command? made
    refine ⟨verb, ?_, fun name mem => ?_⟩
    · rw [named, ← device]
      rfl
    · have empty : ({} : Found).text? name = none := by cases name <;> rfl
      rw [command.lookup_optionValues, texts, ← values name mem]
      simp [Reading.given, Reading.awaited, Reading.values, empty]
  · cases parsed

/-- A command line that is read has a verb, and the words behind it are read. -/
theorem parseWords_first {program : Option String} {k : Nat} {words : List String} {i : Invocation}
    (parsed : parseWords program k words = .ok i) :
    ∃ v rest counted, Verb.first? words = some (v, rest) ∧ parseVerb program counted v rest = .ok i := by
  induction words generalizing k with
  | nil => cases parsed
  | cons word rest ih =>
    unfold parseWords at parsed
    split at parsed
    · cases parsed
    · split at parsed
      · rename_i v named
        exact ⟨v, rest, k, by rw [Verb.first?, named], parsed⟩
      · rename_i unnamed
        have later : Verb.first? (word :: rest) = Verb.first? rest := by rw [Verb.first?, unnamed]
        split at parsed
        · split at parsed <;> cases parsed
        · obtain ⟨counted, -, parsed⟩ := bind_eq_ok.1 parsed
          exact later ▸ ih parsed
        · obtain ⟨counted, -, parsed⟩ := bind_eq_ok.1 parsed
          exact later ▸ ih parsed
        · cases parsed

/-- The words behind the verb say where the arguments come from. -/
theorem parse_origins {program : String} {words : List String} {i : Invocation}
    (parsed : parse (program :: words) = .ok i) :
    ∃ rest, Verb.first? words = some (i.command.verb, rest) ∧
      i.command.verb.positionals false rest = i.command.device?.toList ∧
      ∀ name ∈ OptionName.keys, name.valuesIn rest = (i.command.optionValues.lookup name).toList := by
  obtain ⟨v, rest, counted, first, read⟩ := parseWords_first parsed
  obtain ⟨rfl, origins⟩ := parseVerb_origins read
  exact ⟨rest, first, origins⟩

theorem parse_second_positional {program : String} {words rest : List String} {v : Verb}
    (first : Verb.first? words = some (v, rest)) (second : 2 ≤ (v.positionals false rest).length) (i : Invocation) :
    parse (program :: words) ≠ .ok i := by
  intro parsed
  obtain ⟨behind, here, positional, -⟩ := parse_origins parsed
  cases here.symm.trans first
  have single : i.command.device?.toList.length ≤ 1 := by cases i.command.device? <;> simp
  rw [positional] at second
  omega

/-- A command is read back from its words, in any order and with any values, and its verbosity flags are counted up to
255. A command line with a second positional argument is not read. So a command that is read has its device from the
positional argument and each of its keys from the option of that name. -/
theorem command_lines_faithful :
    (∀ (program : String) (i : Invocation) (words : List String),
      (∀ device ∈ i.command.device?, device.toList.head? ≠ some '-') → i.Written words →
        parse (program :: i.command.verb.name :: words) = .ok { i with verbosity := min i.verbosity 255 }) ∧
    (∀ (program : String) (words rest : List String) (v : Verb), Verb.first? words = some (v, rest) →
      2 ≤ (v.positionals false rest).length → ∀ i, parse (program :: words) ≠ .ok i) ∧
    ∀ (program : String) (words : List String) (i : Invocation), parse (program :: words) = .ok i →
      ∃ rest, Verb.first? words = some (i.command.verb, rest) ∧
        i.command.verb.positionals false rest = i.command.device?.toList ∧
        ∀ name ∈ OptionName.keys, name.valuesIn rest = (i.command.optionValues.lookup name).toList :=
  ⟨fun program _ _ noDash written => parse_written program noDash written,
    fun _ _ _ _ first second => parse_second_positional first second, fun _ _ _ parsed => parse_origins parsed⟩

theorem command_lines_faithful_check :
    let i : Invocation := ⟨.act "/dev/nvme0n1" (.check 4294967295 (some 0) none (some "-a=b")), 2⟩
    let words := ["-v", "--key=-a=b", "/dev/nvme0n1", "--segment=4294967295", "-v", "--start=0"]
    let unlock := ["-v", "unlock", "--key", "k", "-s1", "--", "-d"]
    i.Written words ∧ parse ("sed-range" :: "check" :: words) = .ok i ∧
      (∀ j, parse ["sed-range", "unlock", "d", "-s", "1", "secret"] ≠ .ok j) ∧
      parse ("sed-range" :: unlock) = .ok ⟨.act "-d" (.unlock 1 (some "k")), 1⟩ ∧
      ∃ rest, Verb.first? unlock = some (.unlock, rest) ∧ Verb.unlock.positionals false rest = ["-d"] ∧
        OptionName.key.valuesIn rest = ["k"] ∧ OptionName.psid.valuesIn rest = [] := by
  intro i words unlock
  obtain ⟨readBack, second, origins⟩ := command_lines_faithful
  have written : i.Written words := by unfold Invocation.Written; decide +kernel
  have parsed : parse ("sed-range" :: unlock) = .ok ⟨.act "-d" (.unlock 1 (some "k")), 1⟩ := by decide +kernel
  obtain ⟨rest, first, positional, values⟩ := origins "sed-range" unlock _ parsed
  exact ⟨written, readBack "sed-range" i words (by decide +kernel) written,
    second "sed-range" ["unlock", "d", "-s", "1", "secret"] ["d", "-s", "1", "secret"] .unlock (by decide +kernel)
      (by decide +kernel), parsed, rest, first, positional, values .key (by decide), values .psid (by decide)⟩

end OpalLocking.CommandLine
