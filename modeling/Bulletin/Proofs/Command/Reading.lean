import Bulletin.Proofs.Command.Given
import Mathlib.Data.List.TakeWhile

namespace Bulletin.Command

/-- A setting and its value are written as arguments. A value that is an argument of its own does
not begin with a dash, and one that is attached to a letter does not begin with an equals sign. -/
inductive Writes : Setting × String → List String → Prop
  | separate {setting : Setting} {value : String} (h : value.toList.head? ≠ some '-') :
      Writes (setting, value) ["--" ++ setting.long, value]
  | joined (setting : Setting) (value : String) :
      Writes (setting, value) ["--" ++ setting.long ++ "=" ++ value]
  | shortSeparate {setting : Setting} {value : String} {letter : Char}
      (hletter : setting.short? = some letter) (h : value.toList.head? ≠ some '-') :
      Writes (setting, value) [String.ofList ['-', letter], value]
  | shortAttached {setting : Setting} {value : String} {letter : Char}
      (hletter : setting.short? = some letter) (hne : value ≠ "")
      (h : value.toList.head? ≠ some '=') :
      Writes (setting, value) [String.ofList ('-' :: letter :: value.toList)]

inductive WritesAll : Given → List String → Prop
  | nil : WritesAll [] []
  | cons {option : Setting × String} {options : Given} {words arguments : List String}
      (hfirst : Writes option words) (hrest : WritesAll options arguments) :
      WritesAll (option :: options) (words ++ arguments)

namespace Setting

theorem long_ne (setting : Setting) : setting.long ≠ "" ∧ '=' ∉ setting.long.toList := by
  cases setting <;> decide

theorem short_ne {setting : Setting} {letter : Char} (h : setting.short? = some letter) :
    letter ≠ '-' := by
  cases setting <;> cases h <;> decide

end Setting

namespace Argument

theorem ofString_long {name : String} (hne : name ≠ "") (hname : '=' ∉ name.toList) :
    ofString ("--" ++ name) = .long name none := by
  obtain ⟨first, rest, hlist⟩ := List.exists_cons_of_ne_nil (mt String.toList_eq_nil_iff.mp hne)
  have hall : name.toList.takeWhile (· ≠ '=') = name.toList :=
    List.takeWhile_eq_self_iff.mpr fun c hc ↦ decide_eq_true (ne_of_mem_of_not_mem hc hname)
  have hs : ("--" ++ name).toList = '-' :: '-' :: first :: rest := by
    rw [String.toList_append, hlist]
    rfl
  rw [ofString, hs]
  simp only
  rw [← hlist, hall, List.drop_length, String.ofList_toList]

theorem ofString_joined {name : String} (value : String) (hne : name ≠ "")
    (hname : '=' ∉ name.toList) :
    ofString ("--" ++ name ++ "=" ++ value) = .long name (some value) := by
  obtain ⟨first, rest, hlist⟩ := List.exists_cons_of_ne_nil (mt String.toList_eq_nil_iff.mp hne)
  have hall : (name.toList ++ '=' :: value.toList).takeWhile (· ≠ '=') = name.toList := by
    rw [List.takeWhile_append_of_pos fun c hc ↦ decide_eq_true (ne_of_mem_of_not_mem hc hname),
      List.takeWhile_cons_of_neg (by simp), List.append_nil]
  have hs : ("--" ++ name ++ "=" ++ value).toList =
      '-' :: '-' :: first :: (rest ++ '=' :: value.toList) := by
    simp only [String.toList_append, hlist]
    simp
  rw [ofString, hs]
  simp only
  rw [← List.cons_append, ← hlist, hall, List.drop_left, String.ofList_toList]
  simp

theorem ofString_short {letter : Char} (hletter : letter ≠ '-') (rest : List Char) :
    ofString (String.ofList ('-' :: letter :: rest)) = .short letter rest := by
  simp [ofString, hletter]

theorem ofString_word {s : String} (h : s.toList.head? ≠ some '-') : ofString s = .word s := by
  cases hlist : s.toList with
  | nil => simp [ofString, hlist]
  | cons first rest =>
    have hfirst : first ≠ '-' := by
      rw [hlist] at h
      exact fun he ↦ h (congrArg some he)
    simp [ofString, hlist, hfirst]

end Argument

namespace Scope

theorem long?_eq {scope : Scope} {setting : Setting} (h : setting ∈ scope.settings) :
    scope.long? setting.long = some (.value setting) := by
  cases scope <;> cases setting <;> first | rfl | simp [settings] at h

theorem short?_eq {scope : Scope} {setting : Setting} {letter : Char} (h : setting ∈ scope.settings)
    (hletter : setting.short? = some letter) : scope.short? letter = some (.value setting) := by
  cases scope <;> cases setting <;> cases hletter <;> first | rfl | simp [settings] at h

end Scope

theorem attached?_toList {value : String} (hne : value ≠ "") (h : value.toList.head? ≠ some '=') :
    attached? value.toList = some value := by
  obtain ⟨first, rest, hlist⟩ := List.exists_cons_of_ne_nil (mt String.toList_eq_nil_iff.mp hne)
  have hfirst : first ≠ '=' := by
    rw [hlist] at h
    exact fun he ↦ h (congrArg some he)
  rw [← @String.ofList_toList value, hlist]
  simp [attached?, hfirst]

def Argument.Asks (argument : Argument) (setting : Setting) (attached : Option String) : Prop :=
  argument = .long setting.long attached ∨
    ∃ letter rest, setting.short? = some letter ∧ attached? rest = attached ∧
      argument = .short letter rest

/-- The value of an option is either an argument of its own or attached to the option. -/
theorem Writes.asks {setting : Setting} {value : String} {words : List String}
    (h : Writes (setting, value) words) :
    (∃ first, words = [first, value] ∧ (Argument.ofString first).Asks setting none ∧
      Argument.ofString value = .word value) ∨
    ∃ first, words = [first] ∧ (Argument.ofString first).Asks setting (some value) := by
  obtain ⟨hne, hname⟩ := setting.long_ne
  cases h with
  | separate h =>
    have hfirst := Argument.ofString_long hne hname
    exact .inl ⟨_, rfl, .inl hfirst, Argument.ofString_word h⟩
  | joined =>
    have hfirst := Argument.ofString_joined value hne hname
    exact .inr ⟨_, rfl, .inl hfirst⟩
  | shortSeparate hletter h =>
    have hfirst := Argument.ofString_short (Setting.short_ne hletter) []
    exact .inl ⟨_, rfl, .inr ⟨_, _, hletter, rfl, hfirst⟩, Argument.ofString_word h⟩
  | shortAttached hletter hvalue h =>
    have hfirst := Argument.ofString_short (Setting.short_ne hletter) value.toList
    exact .inr ⟨_, rfl, .inr ⟨_, _, hletter, attached?_toList hvalue h, hfirst⟩⟩

def Pending.IsWhole (pending : Pending) : Prop :=
  ∀ setting, pending ≠ some (setting, none)

theorem Pending.isWhole_none : IsWhole none :=
  nofun

theorem Pending.isWhole_some (setting : Setting) (value : String) :
    IsWhole (some (setting, some value)) :=
  nofun

/-- What is read of a command line comes to settings that are made, or to the reason why they cannot
be, and to some arguments that are still to be read. -/
inductive Reaches (scope : Scope) (rest : List String) :
    Except Stop Given → Except Stop (Given × Pending × List String) → Prop
  | stop (stop : Stop) : Reaches scope rest (.error stop) (.error stop)
  | go {given : Given} {pending : Pending} (h : pending.IsWhole) :
      Reaches scope rest (given.settle pending) (readOptions scope given pending rest)

variable {scope : Scope} {setting : Setting} {value : String} {options : Given}
  {words arguments rest : List String} {made : Except Stop Given}
  {outcome : Except Stop (Given × Pending × List String)}

theorem readOptions_of_asks {argument : String} {attached : Option String}
    (h : (Argument.ofString argument).Asks setting attached) (hs : setting ∈ scope.settings)
    (given : Given) (pending : Pending) :
    readOptions scope given pending (argument :: rest) =
      applyOption given pending setting attached >>= fun next ↦
        readOptions scope next.1 next.2 rest := by
  rcases h with hlong | ⟨letter, text, hletter, rfl, hshort⟩
  · simp only [readOptions, hlong, Scope.long?_eq hs]
  · simp only [readOptions, hshort, Scope.short?_eq hs hletter]

theorem Reaches.make (h : Reaches scope (words ++ rest) made outcome)
    (hw : Writes (setting, value) words) (hs : setting ∈ scope.settings) :
    Reaches scope rest (made >>= fun given ↦ given.make setting value) outcome := by
  cases h with
  | stop stop => exact .stop stop
  | @go given pending h =>
    rcases hw.asks with ⟨first, rfl, hfirst, hvalue⟩ | ⟨first, rfl, hfirst⟩
    · rw [List.cons_append, List.singleton_append, readOptions_of_asks hfirst hs, applyOption]
      cases given.settle pending with
      | error stop => exact .stop stop
      | ok given =>
        -- the option waits for its value, which is the next argument
        have hread : readOptions scope given (some (setting, none)) (value :: rest) =
            readOptions scope given (some (setting, some value)) rest := by
          rw [readOptions, hvalue]
        change Reaches scope rest _ (readOptions scope given (some (setting, none)) (value :: rest))
        rw [hread]
        exact .go (Pending.isWhole_some setting value)
    · rw [List.singleton_append, readOptions_of_asks hfirst hs, applyOption]
      cases given.settle pending with
      | error stop => exact .stop stop
      | ok given =>
        change Reaches scope rest (given.make setting value) (given.make setting value >>= _ >>= _)
        cases given.make setting value with
        | error stop => exact .stop stop
        | ok given => exact .go Pending.isWhole_none

theorem Reaches.makeAll (h : Reaches scope (arguments ++ rest) made outcome)
    (hw : WritesAll options arguments) (hs : ∀ option ∈ options, option.1 ∈ scope.settings) :
    Reaches scope rest (made >>= fun given ↦ given.makeAll options) outcome := by
  induction hw generalizing made with
  | nil => simpa [Given.makeAll] using h
  | @cons option options words arguments hfirst hrest ih =>
    obtain ⟨hoption, hoptions⟩ := List.forall_mem_cons.mp hs
    rw [List.append_assoc] at h
    have hmade := ih (h.make hfirst hoption) hoptions
    rwa [bind_assoc] at hmade

theorem reaches_of_writesAll (hw : WritesAll options arguments)
    (hs : ∀ option ∈ options, option.1 ∈ scope.settings) (rest : List String) :
    Reaches scope rest (Given.makeAll [] options)
      (readOptions scope [] none (arguments ++ rest)) := by
  have h : Reaches scope (arguments ++ rest) (.ok [])
      (readOptions scope [] none (arguments ++ rest)) := .go Pending.isWhole_none
  exact h.makeAll hw hs

theorem readCommand_of_writesAll (hw : WritesAll options arguments)
    (hs : ∀ option ∈ options, option.1 ∈ scope.settings) :
    readCommand scope arguments = Given.makeAll [] options := by
  have h := reaches_of_writesAll hw hs []
  rw [List.append_nil] at h
  rw [readCommand]
  generalize Given.makeAll [] options = made at h ⊢
  generalize readOptions scope [] none arguments = outcome at h ⊢
  cases h with
  | stop stop => rfl
  | go h => rfl

theorem readOptions_of_writesAll (hw : WritesAll options arguments)
    (hs : ∀ option ∈ options, option.1 ∈ scope.settings) {word : String}
    (hword : Argument.ofString word = .word word) (rest : List String) :
    (∃ given pending, given.settle pending = Given.makeAll [] options ∧
      readOptions scope [] none (arguments ++ word :: rest) = .ok (given, pending, word :: rest)) ∨
    ∃ stop, Given.makeAll [] options = .error stop ∧
      readOptions scope [] none (arguments ++ word :: rest) = .error stop := by
  have h := reaches_of_writesAll hw hs (word :: rest)
  generalize Given.makeAll [] options = made at h ⊢
  generalize readOptions scope [] none (arguments ++ word :: rest) = outcome at h ⊢
  cases h with
  | stop stop => exact .inr ⟨stop, rfl, rfl⟩
  | @go given pending h =>
    refine .inl ⟨given, pending, rfl, ?_⟩
    simp only [readOptions, hword]
    split
    · rename_i setting
      exact absurd rfl (h setting)
    · rfl

end Bulletin.Command
