import Mathlib
import SimdProfile.Proofs.Settings
import SimdProfile.Proofs.Text.Blank
import SimdProfile.Proofs.Text.Digits
import SimdProfile.Settings.Environment

/-!
# The grammar of the environment

What the reader of the environment accepts, variable by variable, and what it makes of it. Each variable
that is read has a grammar of its own, stated on its text without the reader; the settings of an
environment are the ones its variables describe, and an environment that describes none is refused as
settings (`environment_read_as_described`).
-/

namespace SimdProfile

namespace Log.Filter

/-- The names of all filters, in lower case. -/
def lowerNames : List String := ["off", "error", "warn", "info", "debug", "trace"]

/-- A filter is known by its name, in letters of either case. -/
theorem isSome_ofName?_iff {s : String} :
    (ofName? s).isSome ↔ ∃ name ∈ lowerNames, s.toList.map Char.toLower = name.toList := by
  have lower : lowerNames = all.map fun f => String.ofList (f.name.toList.map Char.toLower) := by decide
  have upper : ∀ f ∈ all, (f.name.toList.map Char.toLower).map Char.toUpper = f.name.toList := by decide
  rw [ofName?, List.find?_isSome]
  constructor
  · rintro ⟨f, known, same⟩
    have named : f.name.toList = s.toList.map Char.toUpper := eq_of_beq same
    refine ⟨String.ofList (f.name.toList.map Char.toLower), ?_, ?_⟩
    · rw [lower]
      exact List.mem_map_of_mem known
    · rw [String.toList_ofList, named, List.map_map]
      apply List.map_congr_left
      intro c _
      exact c.toLower_toUpper_eq_toLower.symm
  · rintro ⟨name, named, same⟩
    rw [lower] at named
    obtain ⟨f, known, rfl⟩ := List.mem_map.mp named
    rw [String.toList_ofList] at same
    refine ⟨f, known, beq_iff_eq.mpr ?_⟩
    rw [← upper f known, ← same, List.map_map]
    apply List.map_congr_left
    intro c _
    exact c.toUpper_toLower_eq_toUpper

end Log.Filter

namespace Settings

/-! ### The grammar -/

/-- The text, but for blanks around it, is the decimal number of lanes of a target. -/
def SpellsLanes (value : String) (width : UInt32) : Prop :=
  ∃ core, Text.Pads value.toList core ∧ Text.Spells 10 core width.toNat ∧
    1 ≤ width.toNat ∧ width.toNat ≤ 64

/-- A number in decimal, or in hexadecimal behind a mark of either case. -/
inductive SpellsNumber : List Char → Nat → Prop where
  | decimal {cs : List Char} {n : Nat} (spelled : Text.Spells 10 cs n) : SpellsNumber cs n
  | hexadecimal {mark : Char} {cs : List Char} {n : Nat} (marked : mark = 'x' ∨ mark = 'X')
      (spelled : Text.Spells 16 cs n) : SpellsNumber ('0' :: mark :: cs) n

/-- The text, but for blanks around it, is a number of 32 bits, and the flags are the declared ones among
its bits. -/
def SpellsFlags (value : String) (flags : Flags) : Prop :=
  ∃ core, Text.Pads value.toList core ∧
    ∃ n, SpellsNumber core n ∧ n < 2 ^ 32 ∧ flags.bits.toNat = n &&& 0x7e

/-- The text, but for blanks around it, is the name of a filter in letters of either case, and this is the
name in lower case. -/
def SpellsLogLevel (value name : String) : Prop :=
  ∃ core, Text.Pads value.toList core ∧ name ∈ Log.Filter.lowerNames ∧
    core.map Char.toLower = name.toList

/-- What a variable stands for: the default if it is not set, otherwise what its text stands for. -/
def StandsFor {α : Type} (default : α) (Spells : String → α → Prop) : Option String → α → Prop
  | none, x => x = default
  | some value, x => Spells value x

/-- The settings are the ones that the variables describe, each by itself. -/
structure Describes (env : Environment) (s : Settings) : Prop where
  resultsRoot : StandsFor default.resultsRoot (fun dir root => root = .ofText dir) env.resultsDir
    s.resultsRoot
  libraryOrigin : StandsFor default.libraryOrigin (fun name origin => origin = name) env.libraryOrigin
    s.libraryOrigin
  laneWidth : StandsFor default.laneWidth SpellsLanes env.lanes s.laneWidth
  flags : StandsFor default.flags SpellsFlags env.flags s.flags
  logLevel : StandsFor default.logLevel SpellsLogLevel env.log s.logLevel

variable {env : Environment} {s : Settings} {value : String} {cs : List Char} {w : UInt32}

/-! ### Numbers -/

/-- The mark of a hexadecimal number is no part of a decimal one. -/
theorem not_spells_decimal {mark : Char} {n : Nat} (marked : mark = 'x' ∨ mark = 'X') :
    ¬ Text.Spells 10 ('0' :: mark :: cs) n := by
  intro spelled
  have unknown : Text.digitValue? 10 mark = none := by
    rcases marked with rfl | rfl
    · rfl
    · rfl
  cases spelled with
  | unsigned digits =>
    obtain ⟨d, digit⟩ := digits.isDigit_of_mem mark (by simp)
    rw [← Text.digitValue?_eq_some_iff (by omega), unknown] at digit
    cases digit

theorem readMarkedWord_eq_ok_iff : readMarkedWord cs = .ok w ↔ SpellsNumber cs w.toNat := by
  have decimal (cs : List Char) : Text.readWord 10 cs = .ok w ↔ Text.Spells 10 cs w.toNat :=
    Text.readWord_eq_ok_iff (by omega) (by omega)
  have hexadecimal (cs : List Char) : Text.readWord 16 cs = .ok w ↔ Text.Spells 16 cs w.toNat :=
    Text.readWord_eq_ok_iff (by omega) (by omega)
  constructor
  · intro read
    unfold readMarkedWord at read
    split at read
    · exact .hexadecimal (.inl rfl) ((hexadecimal _).mp read)
    · exact .hexadecimal (.inr rfl) ((hexadecimal _).mp read)
    · exact .decimal ((decimal _).mp read)
  · intro spelled
    cases spelled with
    | decimal spelled =>
      unfold readMarkedWord
      split
      · exact absurd spelled (not_spells_decimal (.inl rfl))
      · exact absurd spelled (not_spells_decimal (.inr rfl))
      · exact (decimal _).mpr spelled
    | hexadecimal marked spelled =>
      rcases marked with rfl | rfl
      · exact (hexadecimal _).mpr spelled
      · exact (hexadecimal _).mpr spelled

/-! ### Variables -/

theorem readLanes_eq_ok_iff : readLanes value = .ok w ↔
    ∃ core, Text.Pads value.toList core ∧ Text.Spells 10 core w.toNat := by
  have reads : readLanes value = .ok w ↔ Text.readWord 10 (Text.trim value.toList) = .ok w := by
    unfold readLanes
    split <;> simp_all
  rw [reads, Text.readWord_eq_ok_iff (by omega) (by omega), Text.exists_pads_iff]

/-- The declared flags of a word, as a number. -/
theorem toNat_bits_ofWord (w : UInt32) : (Flags.ofWord w).bits.toNat = w.toNat &&& 0x7e :=
  UInt32.toNat_and w Flags.all.bits

theorem readFlags_eq_ok_iff {f : Flags} : readFlags value = .ok f ↔ SpellsFlags value f := by
  have reads : readFlags value = .ok f ↔
      ∃ w, readMarkedWord (Text.trim value.toList) = .ok w ∧ .ofWord w = f := by
    simp only [readFlags]
    split <;> simp_all
  rw [reads, SpellsFlags, Text.exists_pads_iff]
  constructor
  · rintro ⟨w, word, rfl⟩
    exact ⟨w.toNat, readMarkedWord_eq_ok_iff.mp word, w.toNat_lt, toNat_bits_ofWord w⟩
  · rintro ⟨n, spelled, fits, declared⟩
    have value : (UInt32.ofNat n).toNat = n := UInt32.toNat_ofNat_of_lt' fits
    refine ⟨.ofNat n, ?_, ?_⟩
    · rw [readMarkedWord_eq_ok_iff, value]
      exact spelled
    · have bits : (Flags.ofWord (.ofNat n)).bits = f.bits := by
        apply UInt32.toNat_inj.mp
        rw [toNat_bits_ofWord, value, declared]
      cases f
      exact congrArg Flags.mk bits

theorem toList_readLogLevel (value : String) :
    (readLogLevel value).toList = (Text.trim value.toList).map Char.toLower :=
  String.toList_ofList

/-- A level is read as the name that is spelled, if any is. -/
theorem readLogLevel_eq_iff {name : String} :
    readLogLevel value = name ∧ (Log.Filter.ofName? name).isSome ↔ SpellsLogLevel value name := by
  have lower : ∀ name ∈ Log.Filter.lowerNames, name.toList.map Char.toLower = name.toList := by decide
  rw [SpellsLogLevel, Text.exists_pads_iff, Log.Filter.isSome_ofName?_iff, ← toList_readLogLevel,
    String.toList_inj]
  constructor
  · rintro ⟨rfl, name, known, same⟩
    have again : (readLogLevel value).toList.map Char.toLower = (readLogLevel value).toList := by
      rw [toList_readLogLevel, List.map_map]
      apply List.map_congr_left
      intro c _
      exact c.toLower_toLower_eq_toLower
    rw [again] at same
    rw [String.toList_inj.mp same]
    exact ⟨known, rfl⟩
  · rintro ⟨known, read⟩
    exact ⟨read, name, known, lower name known⟩

/-! ### Environments -/

theorem laneWidth_iff {given : Option String} :
    readOr default.laneWidth readLanes given = .ok w ∧ isLaneWidth w.toNat ↔
      StandsFor default.laneWidth SpellsLanes given w := by
  cases given with
  | none =>
    constructor
    · rintro ⟨unset, -⟩
      exact (Except.ok.inj unset).symm
    · rintro rfl
      exact ⟨rfl, rfl⟩
  | some value =>
    rw [readOr, readLanes_eq_ok_iff, isLaneWidth_iff]
    constructor
    · rintro ⟨⟨core, padded, spelled⟩, bounds⟩
      exact ⟨core, padded, spelled, bounds⟩
    · rintro ⟨core, padded, spelled, bounds⟩
      exact ⟨⟨core, padded, spelled⟩, bounds⟩

theorem flags_iff {given : Option String} {f : Flags} :
    readOr default.flags readFlags given = .ok f ↔ StandsFor default.flags SpellsFlags given f := by
  cases given with
  | none =>
    rw [readOr, Except.ok.injEq]
    exact eq_comm
  | some value => exact readFlags_eq_ok_iff

theorem logLevel_iff {given : Option String} {name : String} :
    given.elim default.logLevel readLogLevel = name ∧ (Log.Filter.ofName? name).isSome ↔
      StandsFor default.logLevel SpellsLogLevel given name := by
  cases given with
  | none =>
    constructor
    · rintro ⟨rfl, -⟩
      rfl
    · rintro rfl
      exact ⟨rfl, by decide⟩
  | some value => exact readLogLevel_eq_iff

/-- Variables that are taken as they are. -/
theorem verbatim_iff {α : Type} {default x : α} {take : String → α} {given : Option String} :
    given.elim default take = x ↔ StandsFor default (fun value x => x = take value) given x := by
  cases given with
  | none => exact eq_comm
  | some value => exact eq_comm

/-- The settings that are read are put together from what is read of each variable, and are valid. -/
theorem ofEnvironment_eq_ok_iff_read : ofEnvironment env = .ok s ↔
    readOr default.laneWidth readLanes env.lanes = .ok s.laneWidth ∧
    readOr default.flags readFlags env.flags = .ok s.flags ∧
    env.resultsDir.elim default.resultsRoot Path.ofText = s.resultsRoot ∧
    env.libraryOrigin.elim default.libraryOrigin id = s.libraryOrigin ∧
    env.log.elim default.logLevel readLogLevel = s.logLevel ∧ s.validate = .ok () := by
  have origin : env.libraryOrigin.getD default.libraryOrigin =
      env.libraryOrigin.elim default.libraryOrigin id := by
    cases env.libraryOrigin <;> rfl
  unfold ofEnvironment
  rw [origin]
  cases lanes : readOr default.laneWidth readLanes env.lanes with
  | error e => exact ⟨nofun, nofun⟩
  | ok width =>
    cases flags : readOr default.flags readFlags env.flags with
    | error e => exact ⟨nofun, nofun⟩
    | ok flags =>
      refine Iff.trans checked_eq_ok_iff ?_
      constructor
      · rintro ⟨rfl, valid⟩
        exact ⟨rfl, rfl, rfl, rfl, rfl, valid⟩
      · rintro ⟨⟨⟩, ⟨⟩, root, origin, level, valid⟩
        refine ⟨?_, valid⟩
        rw [root, origin, level]

theorem validate_of_ofEnvironment (read : ofEnvironment env = .ok s) : s.validate = .ok () :=
  (ofEnvironment_eq_ok_iff_read.mp read).2.2.2.2.2

/-- The reader finds the settings that the environment describes. -/
theorem ofEnvironment_eq_ok_iff : ofEnvironment env = .ok s ↔ Describes env s := by
  rw [ofEnvironment_eq_ok_iff_read, validate_eq_ok_iff]
  constructor
  · rintro ⟨lanes, flags, root, origin, level, width, known⟩
    exact ⟨verbatim_iff.mp root, verbatim_iff.mp origin, laneWidth_iff.mp ⟨lanes, width⟩,
      flags_iff.mp flags, logLevel_iff.mp ⟨level, known⟩⟩
  · rintro ⟨root, origin, lanes, flags, level⟩
    obtain ⟨lanes, width⟩ := laneWidth_iff.mpr lanes
    obtain ⟨level, known⟩ := logLevel_iff.mpr level
    exact ⟨lanes, flags_iff.mpr flags, verbatim_iff.mpr root, verbatim_iff.mpr origin, level, width,
      known⟩

variable {e : Error}

theorem exists_fault_of_readLanes (refused : readLanes value = .error e) :
    ∃ fault, e = .settings fault := by
  unfold readLanes at refused
  split at refused
  · cases refused
  · cases refused
    exact ⟨_, rfl⟩

theorem exists_fault_of_readFlags (refused : readFlags value = .error e) :
    ∃ fault, e = .settings fault := by
  simp only [readFlags] at refused
  split at refused
  · cases refused
  · cases refused
    exact ⟨_, rfl⟩

theorem exists_fault_of_readOr {α : Type} {default : α} {read : String → Except Error α}
    {given : Option String} (faults : ∀ value, read value = .error e → ∃ fault, e = .settings fault)
    (refused : readOr default read given = .error e) : ∃ fault, e = .settings fault := by
  cases given with
  | none => cases refused
  | some value => exact faults value refused

/-- An environment is refused as settings, whichever variable is at fault. -/
theorem exists_fault_of_environment (refused : ofEnvironment env = .error e) :
    ∃ fault, e = .settings fault := by
  unfold ofEnvironment at refused
  cases lanes : readOr default.laneWidth readLanes env.lanes with
  | error fault =>
    rw [lanes] at refused
    cases refused
    exact exists_fault_of_readOr (fun _ => exists_fault_of_readLanes) lanes
  | ok width =>
    cases flags : readOr default.flags readFlags env.flags with
    | error fault =>
      rw [lanes, flags] at refused
      cases refused
      exact exists_fault_of_readOr (fun _ => exists_fault_of_readFlags) flags
    | ok flags =>
      rw [lanes, flags] at refused
      exact exists_fault_of_checked refused

theorem exists_standsFor_iff {α : Type} {default : α} {Spells : String → α → Prop}
    {given : Option String} : (∃ x, StandsFor default Spells given x) ↔
      ∀ value, given = some value → ∃ x, Spells value x := by
  cases given with
  | none => exact ⟨fun _ => nofun, fun _ => ⟨default, rfl⟩⟩
  | some value =>
    constructor
    · rintro ⟨x, spelled⟩ _ ⟨⟩
      exact ⟨x, spelled⟩
    · intro spelled
      exact spelled value rfl

/-- An environment describes settings if each of its variables stands for something. -/
theorem exists_describes_iff : (∃ s, Describes env s) ↔
    (∃ width, StandsFor default.laneWidth SpellsLanes env.lanes width) ∧
    (∃ flags, StandsFor default.flags SpellsFlags env.flags flags) ∧
    ∃ name, StandsFor default.logLevel SpellsLogLevel env.log name := by
  constructor
  · rintro ⟨s, described⟩
    exact ⟨⟨_, described.laneWidth⟩, ⟨_, described.flags⟩, ⟨_, described.logLevel⟩⟩
  · rintro ⟨⟨width, lanes⟩, ⟨flags, word⟩, name, level⟩
    exact ⟨⟨_, _, width, flags, name⟩, verbatim_iff.mp rfl, verbatim_iff.mp rfl, lanes, word, level⟩

/-- **The reader of the environment accepts its grammar and nothing else.** It succeeds if and only if each
of the three variables that are read is not set or spells something, it finds the settings that the
variables describe, and it refuses all others as settings. -/
theorem environment_read_as_described (get? : String → Option String) :
    ((∃ s, ofEnvironment (.ofLookup get?) = .ok s) ↔
      (∀ value, get? "LANEPROF_LANES" = some value → ∃ width, SpellsLanes value width) ∧
      (∀ value, get? "LANEPROF_FLAGS" = some value → ∃ flags, SpellsFlags value flags) ∧
      ∀ value, get? "LANEPROF_LOG" = some value → ∃ name, SpellsLogLevel value name) ∧
    (∀ s, ofEnvironment (.ofLookup get?) = .ok s ↔ Describes (.ofLookup get?) s) ∧
    ∀ e, ofEnvironment (.ofLookup get?) = .error e → e.code = "CONFIGURATION" := by
  refine ⟨?accepts, ?finds, ?refuses⟩
  case accepts =>
    have found : (∃ s, ofEnvironment (.ofLookup get?) = .ok s) ↔ ∃ s, Describes (.ofLookup get?) s :=
      exists_congr fun s => ofEnvironment_eq_ok_iff
    rw [found, exists_describes_iff, exists_standsFor_iff, exists_standsFor_iff, exists_standsFor_iff]
    rfl
  case finds =>
    intro s
    exact ofEnvironment_eq_ok_iff
  case refuses =>
    intro e refused
    obtain ⟨fault, rfl⟩ := exists_fault_of_environment refused
    rfl

/-- Variables in blanks, signs and letters of either case, and flags one above the largest word. -/
theorem padded_variables_read_as_described :
    let get? : String → Option String := fun name =>
      [("LANEPROF_RESULTS_DIR", "out/ "), ("LANEPROF_LANES", " +016\u3000"),
        ("LANEPROF_FLAGS", "0X+00fF "), ("LANEPROF_LOG", "\tDeBuG")].lookup name
    let large : String → Option String := fun name => [("LANEPROF_FLAGS", "4294967296")].lookup name
    ofEnvironment (.ofLookup get?) = .ok ⟨.ofText "out/ ", "stdlib.ispc", 16, ⟨0x7e⟩, "debug"⟩ ∧
    SpellsLanes " +016\u3000" 16 ∧ SpellsFlags "0X+00fF " ⟨0x7e⟩ ∧
    SpellsLogLevel "\tDeBuG" "debug" ∧
    (¬ ∃ flags, SpellsFlags "4294967296" flags) ∧
    ∃ e, ofEnvironment (.ofLookup large) = .error e ∧ e.code = "CONFIGURATION" := by
  intro get? large
  have read : ofEnvironment (.ofLookup get?) =
      .ok ⟨.ofText "out/ ", "stdlib.ispc", 16, ⟨0x7e⟩, "debug"⟩ := by decide +kernel
  have refused : ofEnvironment (.ofLookup large) =
      .error (.settings (.unreadable "LANEPROF_FLAGS" "4294967296" .overflow)) := by decide +kernel
  obtain ⟨-, finds, -⟩ := environment_read_as_described get?
  obtain ⟨accepts, -, refuses⟩ := environment_read_as_described large
  have described := (finds _).mp read
  refine ⟨read, described.laneWidth, described.flags, described.logLevel, ?_, _, refused,
    refuses _ refused⟩
  rintro ⟨f, spelled⟩
  have accepted : ∃ s, ofEnvironment (.ofLookup large) = .ok s := by
    apply accepts.mpr
    refine ⟨nofun, ?_, nofun⟩
    rintro _ ⟨⟩
    exact ⟨f, spelled⟩
  obtain ⟨s, accepted⟩ := accepted
  cases refused.symm.trans accepted

end Settings

end SimdProfile
