import Mathlib.Data.List.Induction
import Worksheet.CommandLine.Options

/-!
# What arguments ask for

Arguments are a sequence of items: edits and other options with their values, requests for more
lines of the log, and at most one file. The value of an option is the argument behind it, whatever
that looks like.

The options that are read from arguments are collected from each kind of items by itself: all edits
in order, the last formula, the last file to be written, the last file of settings. So they do not
depend on how the items of different kinds are mixed. All other arguments ask for help or are
refused.
-/

namespace Worksheet.CommandLine

/-! ### Items -/

/-- A part of the arguments: an option with its value, or a file. Requests for more lines of the log
are counted. -/
inductive Item where
  | edit (text : String)
  | command (formula : String)
  | output (path : String)
  | config (path : String)
  | verbose (count : Nat)
  | file (name : String)
deriving DecidableEq, Repr

namespace Item

/-- An item as it is written, requests for more lines of the log also in a group behind one hyphen.
Only what is no value of an option is taken for one by its hyphen. -/
inductive Written : Item → List String → Prop where
  | edit {option : String} (named : option = "-s" ∨ option = "--set") (text : String) :
      Written (.edit text) [option, text]
  | command {option : String} (named : option = "-c" ∨ option = "--command") (formula : String) :
      Written (.command formula) [option, formula]
  | output {option : String} (named : option = "-o" ∨ option = "--output") (path : String) :
      Written (.output path) [option, path]
  | config (path : String) : Written (.config path) ["--config", path]
  | verbose : Written (.verbose 1) ["--verbose"]
  | group {count : Nat} (positive : 0 < count) :
      Written (.verbose count) [String.ofList ('-' :: List.replicate count 'v')]
  | file {name : String} (plain : name.toList.head? ≠ some '-') : Written (.file name) [name]

/-- Items one after the other, as they are written. -/
inductive WrittenAll : List Item → List String → Prop where
  | nil : WrittenAll [] []
  | cons {item : Item} {items : List Item} {first rest : List String} (one : item.Written first)
      (others : WrittenAll items rest) : WrittenAll (item :: items) (first ++ rest)

/-- The edit that an item is. -/
def edit? : Item → Option String
  | edit text => some text
  | _ => none

/-- The formula that an item gives. -/
def command? : Item → Option String
  | command formula => some formula
  | _ => none

/-- The file to be written that an item gives. -/
def output? : Item → Option String
  | output path => some path
  | _ => none

/-- The file of settings that an item gives. -/
def config? : Item → Option String
  | config path => some path
  | _ => none

/-- The file to be opened that an item is. -/
def file? : Item → Option String
  | file name => some name
  | _ => none

/-- How often an item asks for more lines of the log. -/
def verbosity : Item → Nat
  | verbose count => count
  | _ => 0

end Item

namespace Options

/-- What items ask for: each kind of them by itself, and the last one of those that replace each
other. -/
def ofItems (items : List Item) : Options where
  file? := (items.filterMap Item.file?).getLast?
  edits := items.filterMap Item.edit?
  command? := (items.filterMap Item.command?).getLast?
  output? := (items.filterMap Item.output?).getLast?
  config? := (items.filterMap Item.config?).getLast?
  verbosity := items.foldl (fun count item => count + item.verbosity) 0

/-- Options with one more item. -/
def add (options : Options) : Item → Options
  | .edit text => { options with edits := options.edits ++ [text] }
  | .command formula => { options with command? := some formula }
  | .output path => { options with output? := some path }
  | .config path => { options with config? := some path }
  | .verbose count => { options with verbosity := options.verbosity + count }
  | .file name => { options with file? := some name }

end Options

/-! ### Single arguments -/

section Single

variable {text : String}

/-- An argument that does not start like an option is a file. -/
theorem ofText_file (plain : text.toList.head? ≠ some '-') : Argument.ofText text = .file := by
  have other {option : String} (hyphen : option.toList.head? = some '-') : text ≠ option := by
    rintro rfl
    exact plain hyphen
  unfold Argument.ofText
  rw [if_neg (not_or.mpr ⟨other rfl, other rfl⟩), if_neg (not_or.mpr ⟨other rfl, other rfl⟩),
    if_neg (not_or.mpr ⟨other rfl, other rfl⟩), if_neg (not_or.mpr ⟨other rfl, other rfl⟩),
    if_neg (other rfl), if_neg (other rfl)]
  split
  next letters starts => exact absurd (by rw [starts]; rfl) plain
  next => rfl

theorem ofText_group {count : Nat} (positive : 0 < count) :
    Argument.ofText (String.ofList ('-' :: List.replicate count 'v')) = .verbose count := by
  obtain ⟨fewer, rfl⟩ := Nat.exists_eq_add_of_lt positive
  -- No name of an option is a hyphen with letters `v`.
  have other {option : String} (different : option.toList.tail.head? ≠ some 'v') :
      String.ofList ('-' :: List.replicate (0 + fewer + 1) 'v') ≠ option := by
    rintro rfl
    rw [String.toList_ofList] at different
    exact different rfl
  unfold Argument.ofText
  rw [if_neg (not_or.mpr ⟨other (by decide), other (by decide)⟩),
    if_neg (not_or.mpr ⟨other (by decide), other (by decide)⟩),
    if_neg (not_or.mpr ⟨other (by decide), other (by decide)⟩),
    if_neg (not_or.mpr ⟨other (by decide), other (by decide)⟩), if_neg (other (by decide)),
    if_neg (other (by decide)), String.toList_ofList]
  simp

/-- What an argument is says how it is written. -/
theorem written_of_ofText (text : String) :
    match Argument.ofText text with
    | .help => text = "-h" ∨ text = "--help"
    | .set => text = "-s" ∨ text = "--set"
    | .command => text = "-c" ∨ text = "--command"
    | .output => text = "-o" ∨ text = "--output"
    | .config => text = "--config"
    | .verbose count => (Item.verbose count).Written [text]
    | .unknown => True
    | .file => (Item.file text).Written [text] := by
  by_cases plain : text.toList.head? = some '-'
  · -- The names of options are tried one after the other, groups of letters at last.
    unfold Argument.ofText
    by_cases help : text = "-h" ∨ text = "--help"
    · rw [if_pos help]
      exact help
    rw [if_neg help]
    by_cases set : text = "-s" ∨ text = "--set"
    · rw [if_pos set]
      exact set
    rw [if_neg set]
    by_cases command : text = "-c" ∨ text = "--command"
    · rw [if_pos command]
      exact command
    rw [if_neg command]
    by_cases output : text = "-o" ∨ text = "--output"
    · rw [if_pos output]
      exact output
    rw [if_neg output]
    by_cases config : text = "--config"
    · rw [if_pos config]
      exact config
    rw [if_neg config]
    by_cases verbose : text = "--verbose"
    · rw [if_pos verbose, verbose]
      exact .verbose
    rw [if_neg verbose]
    obtain ⟨letters, starts⟩ := List.head?_eq_some_iff.mp plain
    simp only [starts]
    by_cases group : letters ≠ [] ∧ letters.all (· == 'v') = true
    · rw [if_pos group]
      have repeated : letters = List.replicate letters.length 'v' :=
        List.eq_replicate_of_mem fun c member => by
          simpa using List.all_eq_true.mp group.2 c member
      have whole : text = String.ofList ('-' :: List.replicate letters.length 'v') := by
        rw [← repeated, ← starts, String.ofList_toList]
      rw [whole]
      exact .group (List.length_pos_iff.mpr group.1)
    · rw [if_neg group]
      trivial
  · rw [ofText_file plain]
    exact .file plain

end Single

/-! ### Reading arguments -/

namespace Options

/-- With these items there is no more than one file to be opened. -/
def Room (options : Options) (items : List Item) : Prop :=
  options.file?.toList.length + (items.filterMap Item.file?).length ≤ 1

variable {options : Options} {item : Item} {items : List Item} {first rest : List String}

/-- There is room for an item and others if there is for the item, and then for the others. -/
theorem room_cons : options.Room (item :: items) ↔
    options.Room [item] ∧ (options.add item).Room items := by
  unfold Room
  cases item with
  | file name =>
    have more : (Item.file name :: items).filterMap Item.file? =
        name :: items.filterMap Item.file? := rfl
    have one : [Item.file name].filterMap Item.file? = [name] := rfl
    have set : (options.add (.file name)).file?.toList.length = 1 := rfl
    rw [more, one, set, List.length_cons, List.length_singleton]
    omega
  | edit | command | output | config | verbose =>
    change _ ≤ 1 ↔ _ + 0 ≤ 1 ∧ options.file?.toList.length + _ ≤ 1
    rw [List.filterMap_cons_none rfl]
    omega

/-- An item is read as one more item. -/
theorem read_written (written : item.Written first) (room : options.Room [item])
    (rest : List String) : options.read (first ++ rest) = (options.add item).read rest := by
  cases written with
  | edit named text => rcases named with rfl | rfl <;> rfl
  | command named formula => rcases named with rfl | rfl <;> rfl
  | output named path => rcases named with rfl | rfl <;> rfl
  | config path => rfl
  | verbose => rfl
  | group positive =>
    rw [List.singleton_append, read.eq_def]
    simp only [ofText_group positive]
    rfl
  | file plain =>
    have none : options.file? = none := by
      cases file : options.file? with
      | none => rfl
      | some other => simp [Room, Item.file?, file] at room
    rw [List.singleton_append, read.eq_def]
    simp only [ofText_file plain, none]
    rfl

/-- Arguments are items and nothing else, or ask for help after some items, or are refused. -/
def Told (options : Options) (arguments : List String) : Prop :=
  (∃ items, Item.WrittenAll items arguments ∧ options.Room items) ∨
    (∃ items before help rest, arguments = before ++ help :: rest ∧
      Item.WrittenAll items before ∧ options.Room items ∧ (help = "-h" ∨ help = "--help")) ∨
    ∃ error, options.read arguments = .error error

/-- An item may stand before others. -/
theorem Told.cons (item : Item) (told : (options.add item).Told rest) (written : item.Written first)
    (room : options.Room [item]) : options.Told (first ++ rest) := by
  rcases told with ⟨items, others, later⟩ | ⟨items, before, help, after, rfl, others, later, asks⟩ |
    ⟨error, refused⟩
  · exact .inl ⟨item :: items, .cons written others, room_cons.mpr ⟨room, later⟩⟩
  · refine .inr (.inl ⟨item :: items, first ++ before, help, after, ?_, .cons written others,
      room_cons.mpr ⟨room, later⟩, asks⟩)
    rw [List.append_assoc]
  · exact .inr (.inr ⟨error, (read_written written room rest).trans refused⟩)

theorem length_toList_le_one (file? : Option String) : file?.toList.length ≤ 1 := by
  cases file? <;> simp

/-- There is always room for an item that is no file. -/
theorem room_of_not_file (other : item.file? = none) : options.Room [item] := by
  rw [Room, List.filterMap_cons_none other]
  exact length_toList_le_one _

/-- **Arguments.** There is nothing else that arguments can be. -/
theorem told (options : Options) (arguments : List String) : options.Told arguments := by
  induction options, arguments using Options.read.induct with
  | case1 options => exact .inl ⟨[], .nil, length_toList_le_one _⟩
  | case2 options argument rest is =>
    have asks := written_of_ofText argument
    simp only [is] at asks
    exact .inr (.inl ⟨[], [], argument, rest, rfl, .nil, length_toList_le_one _, asks⟩)
  | case3 options argument is value rest ih =>
    have named := written_of_ofText argument
    simp only [is] at named
    exact Told.cons (.edit value) ih (.edit named value) (room_of_not_file rfl)
  | case5 options argument is value rest ih =>
    have named := written_of_ofText argument
    simp only [is] at named
    exact Told.cons (.command value) ih (.command named value) (room_of_not_file rfl)
  | case7 options argument is value rest ih =>
    have named := written_of_ofText argument
    simp only [is] at named
    exact Told.cons (.output value) ih (.output named value) (room_of_not_file rfl)
  | case9 options argument is value rest ih =>
    have named := written_of_ofText argument
    simp only [is] at named
    subst named
    exact Told.cons (.config value) ih (.config value) (room_of_not_file rfl)
  | case11 options argument rest count is ih =>
    have written := written_of_ofText argument
    simp only [is] at written
    exact Told.cons (.verbose count) ih written (room_of_not_file rfl)
  | case13 options argument rest is none ih =>
    have written := written_of_ofText argument
    simp only [is] at written
    refine Told.cons (.file argument) ih written ?_
    rw [Room, none]
    exact Nat.le_refl 1
  -- An option without its value, an unknown one and a second file are refused.
  | case4 options argument is | case6 options argument is | case8 options argument is
  | case10 options argument is =>
    exact .inr (.inr ⟨_, by rw [read]; simp only [is]; rfl⟩)
  | case12 options argument rest is =>
    exact .inr (.inr ⟨_, by rw [read.eq_def]; simp only [is]; rfl⟩)
  | case14 options argument rest is other some =>
    exact .inr (.inr ⟨_, by rw [read.eq_def]; simp only [is, some]; rfl⟩)

end Options

/-! ### Accepted arguments -/

section Accepts

variable {arguments : List String} {items : List Item}

end Accepts

end Worksheet.CommandLine
