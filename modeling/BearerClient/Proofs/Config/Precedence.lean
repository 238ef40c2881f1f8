import BearerClient.Proofs.Config.Sheet
import BearerClient.Proofs.Config.Sources

/-!
# Which source counts

The environment comes before all files.  If it gives no configuration, one file decides: of the
places that are looked at, the first one that holds a regular file.  Nearer directories come before
those above them, and in a directory the names come in their order.  What that file tells is the
outcome, also if it is a failure, so whatever lies at later places makes no difference.  A file
whose text says what is on a sheet, in the format that its name stands for, tells the configuration
that the sheet gives.
-/

namespace BearerClient.Surroundings

/-! ## Places -/

/-- A place for a configuration file: a name, so many directories above the working directory. -/
structure Place where
  above : Nat
  name : String

/-- A nearer directory comes first, and in one directory the preferred name. -/
def Place.Before (first second : Place) : Prop :=
  first.above < second.above ∨
    first.above = second.above ∧ fileNames.idxOf first.name < fileNames.idxOf second.name

theorem Place.Before.asymm {first second : Place} (hbefore : first.Before second) :
    ¬ second.Before first := by
  unfold Place.Before at *
  omega

theorem Place.not_before_self (place : Place) : ¬ place.Before place :=
  fun hbefore => hbefore.asymm hbefore

/-- The location of a place in the file tree. -/
def locate (surroundings : Surroundings) (place : Place) : Location :=
  surroundings.workingDirectory.take (surroundings.workingDirectory.length - place.above) ++
    [place.name]

/-- A place is looked at: in the working directory or one of the two above it, as far as there are
such directories, under one of the names of configuration files. -/
structure Searches (surroundings : Surroundings) (place : Place) : Prop where
  above_le : place.above ≤ 2
  above_le_length : place.above ≤ surroundings.workingDirectory.length
  name_mem : place.name ∈ fileNames

variable {surroundings : Surroundings} {place : Place} {file : FileTree.Entry}

/-- The places that are looked at, in their order. -/
def places (surroundings : Surroundings) : List Place :=
  ((List.range 3).filter (· ≤ surroundings.workingDirectory.length)).flatMap fun above =>
    fileNames.map (Place.mk above)

theorem candidates_eq (surroundings : Surroundings) :
    surroundings.candidates = surroundings.places.map surroundings.locate := by
  rw [candidates, searchedDirectories, places, List.flatMap_map, List.map_flatMap]
  simp only [List.map_map]
  rfl

theorem mem_places : place ∈ surroundings.places ↔ surroundings.Searches place := by
  obtain ⟨above, name⟩ := place
  simp only [places, List.mem_flatMap, List.mem_filter, List.mem_range, decide_eq_true_eq,
    List.mem_map, Place.mk.injEq]
  constructor
  · rintro ⟨_, ⟨hnear, hlength⟩, _, hname, rfl, rfl⟩
    exact ⟨Nat.le_of_lt_succ hnear, hlength, hname⟩
  · rintro ⟨hnear, hlength, hname⟩
    exact ⟨above, ⟨Nat.lt_succ_of_le hnear, hlength⟩, name, hname, rfl, rfl⟩

theorem places_ordered (surroundings : Surroundings) :
    surroundings.places.Pairwise Place.Before := by
  refine List.pairwise_flatMap.2 ⟨fun above _ => ?_, ?_⟩
  · have hnames : fileNames.Pairwise fun first second =>
        fileNames.idxOf first < fileNames.idxOf second := by decide
    exact List.pairwise_map.2 (hnames.imp fun hbefore => .inr ⟨rfl, hbefore⟩)
  · refine (List.pairwise_lt_range.filter _).imp fun hlt first hfirst second hsecond => .inl ?_
    obtain ⟨_, _, rfl⟩ := List.mem_map.1 hfirst
    obtain ⟨_, _, rfl⟩ := List.mem_map.1 hsecond
    exact hlt

/-! ## The first file -/

/-- A regular file is at a place. -/
structure HasFile (surroundings : Surroundings) (place : Place) (file : FileTree.Entry) : Prop where
  entry : surroundings.files.entry? (surroundings.locate place) = some file
  isFile : file.isFile = true

theorem hasFile_iff :
    surroundings.HasFile place file ↔
      surroundings.fileAt? (surroundings.locate place) = some file := by
  rw [fileAt?, Option.filter_eq_some_iff]
  exact ⟨fun hfile => ⟨hfile.entry, hfile.isFile⟩, fun hfile => ⟨hfile.1, hfile.2⟩⟩

/-- A place holds the first regular file of those that are looked at. -/
structure FirstFile (surroundings : Surroundings) (place : Place) (file : FileTree.Entry) :
    Prop where
  searched : surroundings.Searches place
  file : surroundings.HasFile place file
  first : ∀ other, surroundings.Searches other → other.Before place →
    ∀ file, ¬ surroundings.HasFile other file

/-- None of the places that are looked at holds a regular file. -/
def NoFile (surroundings : Surroundings) : Prop :=
  ∀ place, surroundings.Searches place → ∀ file, ¬ surroundings.HasFile place file

/-- The first regular file, with its location. -/
def search (surroundings : Surroundings) : Option (Location × FileTree.Entry) :=
  surroundings.candidates.findSome? fun location =>
    (surroundings.fileAt? location).map (location, ·)

theorem search_eq (surroundings : Surroundings) :
    surroundings.search = surroundings.places.findSome? fun place =>
      (surroundings.fileAt? (surroundings.locate place)).map (surroundings.locate place, ·) := by
  rw [search, candidates_eq, List.findSome?_map]
  rfl

theorem probe_eq (surroundings : Surroundings) :
    surroundings.probe = surroundings.search.map Prod.fst := by
  unfold probe search
  induction surroundings.candidates with
  | nil => rfl
  | cons location locations ih =>
      rw [List.find?_cons, List.findSome?_cons]
      cases surroundings.fileAt? location with
      | none => exact ih
      | some file => rfl

theorem fileAt?_eq_none (hfile : ∀ file, ¬ surroundings.HasFile place file) :
    surroundings.fileAt? (surroundings.locate place) = none :=
  Option.eq_none_iff_forall_ne_some.2 fun file => mt hasFile_iff.2 (hfile file)

theorem FirstFile.search_eq (hfirst : surroundings.FirstFile place file) :
    surroundings.search = some (surroundings.locate place, file) := by
  obtain ⟨before, after, hplaces⟩ := List.append_of_mem (mem_places.2 hfirst.searched)
  have hordered := surroundings.places_ordered
  rw [hplaces, List.pairwise_append] at hordered
  rw [Surroundings.search_eq, List.findSome?_eq_some_iff]
  refine ⟨before, place, after, hplaces, ?_, fun other hother => ?_⟩
  · rw [hasFile_iff.1 hfirst.file]
    rfl
  · have hsearched : surroundings.Searches other := by
      rw [← mem_places, hplaces]
      exact List.mem_append_left _ hother
    rw [fileAt?_eq_none (hfirst.first other hsearched (hordered.2.2 other hother place
      List.mem_cons_self))]
    rfl

-- a directory is passed over, and a file hides those in the directories above
example :
    let surroundings : Surroundings :=
      ⟨[], ⟨[(["srv", "graphlink.json", "old"], .file []), (["srv", "config.json"], .file []),
        (["graphlink.json"], .file Config.defaults.toJson.octets)]⟩, ["srv"]⟩
    surroundings.search = some (["srv", "config.json"], .file []) := by decide

theorem NoFile.search_eq (hnone : surroundings.NoFile) : surroundings.search = none := by
  rw [Surroundings.search_eq, List.findSome?_eq_none_iff]
  intro place hplace
  rw [fileAt?_eq_none (hnone place (mem_places.1 hplace))]
  rfl

theorem firstFile_or_noFile (surroundings : Surroundings) :
    (∃ place file, surroundings.FirstFile place file) ∨ surroundings.NoFile := by
  cases hsearch : surroundings.search with
  | none =>
      right
      intro place hplace file hfile
      rw [Surroundings.search_eq, List.findSome?_eq_none_iff] at hsearch
      have hfound := hsearch place (mem_places.2 hplace)
      rw [hasFile_iff.1 hfile] at hfound
      cases hfound
  | some found =>
      left
      rw [Surroundings.search_eq, List.findSome?_eq_some_iff] at hsearch
      obtain ⟨before, place, after, hplaces, hfound, hnone⟩ := hsearch
      obtain ⟨file, hfile, -⟩ := Option.map_eq_some_iff.1 hfound
      have hordered := surroundings.places_ordered
      rw [hplaces, List.pairwise_append, List.pairwise_cons] at hordered
      refine ⟨place, file, ?_, hasFile_iff.2 hfile, fun other hother hbefore file hfile => ?_⟩
      · rw [← mem_places, hplaces]
        exact List.mem_append_right _ List.mem_cons_self
      · rw [← mem_places, hplaces, List.mem_append, List.mem_cons] at hother
        rcases hother with hother | rfl | hother
        · have hempty := hnone other hother
          rw [hasFile_iff.1 hfile] at hempty
          cases hempty
        · exact other.not_before_self hbefore
        · exact hbefore.asymm (hordered.2.1.1 other hother)

/-! ## What files tell -/

/-- What the names of the files of a format end in. -/
def Format.suffix : Format → String
  | .json => ".json"
  | .toml => ".toml"

theorem formatOf_eq {name : String} (hname : name ∈ fileNames) (format : Format) :
    formatOf name = .ok format ↔ format.suffix.toList <:+ name.toList := by
  simp only [fileNames, List.mem_cons, List.not_mem_nil, or_false] at hname
  rcases hname with rfl | rfl | rfl | rfl <;> cases format <;> decide

/-- A text is read as a configuration, in the format that a name stands for. -/
def Reads (name text : String) (config : Config) : Prop :=
  ".json".toList <:+ name.toList ∧ Config.decoder.run (Text.utf8 text) = .ok config ∨
    ".toml".toList <:+ name.toList ∧ Config.ofToml text = .ok config

/-- What a file tells: a configuration, or the first thing that is wrong with it. -/
inductive Tells (name : String) : FileTree.Entry → Except Failure Config → Prop where
  | locked (reason : String) :
      Tells name (.locked reason) (.error (.config ("Failed to read config file: " ++ reason)))
  | notText {contents : Bytes} (hcontents : ∀ text, contents ≠ Text.utf8 text) :
      Tells name (.file contents)
        (.error (.config "Failed to read config file: stream did not contain valid UTF-8"))
  | notJson {text : String} {fault : Json.Fault} (hname : ".json".toList <:+ name.toList)
      (hread : Config.decoder.run (Text.utf8 text) = .error fault) :
      Tells name (.file (Text.utf8 text))
        (.error (.config ("Invalid JSON format: " ++ fault.message)))
  | notToml {text : String} {fault : Toml.Fault} (hname : ".toml".toList <:+ name.toList)
      (hread : Config.ofToml text = .error fault) :
      Tells name (.file (Text.utf8 text))
        (.error (.config ("Invalid TOML format: " ++ fault.message)))
  | invalid {text : String} {config : Config} {failure : Failure} (hread : Reads name text config)
      (hinvalid : config.validate = .error failure) :
      Tells name (.file (Text.utf8 text)) (.error failure)
  | valid {text : String} {config : Config} (hread : Reads name text config)
      (hvalid : config.validate = .ok ()) : Tells name (.file (Text.utf8 text)) (.ok config)

theorem formatOf_fileNames {name : String} (hname : name ∈ fileNames) :
    ∃ format, formatOf name = .ok format := by
  simp only [fileNames, List.mem_cons, List.not_mem_nil, or_false] at hname
  rcases hname with rfl | rfl | rfl | rfl
  · exact ⟨.json, rfl⟩
  · exact ⟨.toml, rfl⟩
  · exact ⟨.json, rfl⟩
  · exact ⟨.toml, rfl⟩

section Parsing

variable {path text : String} {format : Format} {config : Config} {failure : Failure}

theorem readConfig_utf8 (hformat : formatOf path = .ok format) (text : String) :
    readConfig path (.file (Text.utf8 text)) =
      (parseConfig text format).bind fun config => config.validate.bind fun _ => .ok config := by
  rw [readConfig, readText_utf8, hformat]
  rfl

theorem readConfig_of_error (hformat : formatOf path = .ok format)
    (hparse : parseConfig text format = .error failure) :
    readConfig path (.file (Text.utf8 text)) = .error failure := by
  rw [readConfig_utf8 hformat, hparse, Except.bind]

theorem readConfig_of_ok (hformat : formatOf path = .ok format)
    (hparse : parseConfig text format = .ok config) :
    readConfig path (.file (Text.utf8 text)) = config.validate.bind fun _ => .ok config := by
  rw [readConfig_utf8 hformat, hparse, Except.bind]

end Parsing

theorem Reads.tells {name text : String} {config : Config} (hread : Reads name text config) :
    Tells name (.file (Text.utf8 text)) (config.validate.bind fun _ => .ok config) := by
  cases hcheck : config.validate with
  | error failure => exact .invalid hread hcheck
  | ok => exact .valid hread hcheck

theorem readConfig_tells {name : String} (hname : name ∈ fileNames) (hfile : file.isFile = true) :
    Tells name file (readConfig name file) := by
  cases file with
  | directory => cases hfile
  | locked reason => exact .locked reason
  | file contents =>
      by_cases htext : ∃ text, contents = Text.utf8 text
      · obtain ⟨text, rfl⟩ := htext
        obtain ⟨format, hformat⟩ := formatOf_fileNames hname
        have hsuffix := (formatOf_eq hname format).1 hformat
        cases format with
        | json =>
            rw [Format.suffix] at hsuffix
            cases hread : Config.decoder.run (Text.utf8 text) with
            | error fault =>
                rw [readConfig_of_error hformat (by rw [parseConfig, hread])]
                exact .notJson hsuffix hread
            | ok config =>
                rw [readConfig_of_ok hformat (by rw [parseConfig, hread])]
                exact Reads.tells (.inl ⟨hsuffix, hread⟩)
        | toml =>
            rw [Format.suffix] at hsuffix
            cases hread : Config.ofToml text with
            | error fault =>
                rw [readConfig_of_error hformat (by rw [parseConfig, hread])]
                exact .notToml hsuffix hread
            | ok config =>
                rw [readConfig_of_ok hformat (by rw [parseConfig, hread])]
                exact Reads.tells (.inr ⟨hsuffix, hread⟩)
      · rw [not_exists] at htext
        have hread : readText (.file contents) =
            .error (unreadable "stream did not contain valid UTF-8") := by
          rw [readText, Text.Utf8.decode?_eq_none_iff.2 htext]
        rw [readConfig, hread]
        exact .notText htext

/-- The configuration in a file is the one that its data give, if that one is valid. -/
theorem readConfig_eq_ok_iff_gives {name text : String} {format : Format} {sheet : Sheet}
    {config : Config} (hname : name ∈ fileNames) (hsuffix : format.suffix.toList <:+ name.toList)
    (hsaid : sheet.SaidBy format text) (hdistinct : sheet.Distinct) :
    readConfig name (.file (Text.utf8 text)) = .ok config ↔
      sheet.Gives config ∧ config.validate = .ok () := by
  rw [readConfig_eq_ok_iff, readText_utf8, (formatOf_eq hname format).2 hsuffix]
  simp only [Except.ok.injEq, exists_eq_left', hsaid.parseConfig_eq_ok_iff hdistinct,
    Config.validate_eq_ok_iff]

/-! ## What the sources give -/

theorem probedConfig_eq (surroundings : Surroundings) :
    surroundings.probedConfig =
      match surroundings.search with
      | some (location, file) => readConfig (location.getLast?.getD "") file
      | none => .error noFile := rfl

theorem config_of_environment {config : Config}
    (henvironment : surroundings.environmentConfig = .ok config) :
    surroundings.config = .ok config := by
  rw [Surroundings.config, henvironment]

theorem config_of_files {failure : Failure}
    (henvironment : surroundings.environmentConfig = .error failure) :
    surroundings.config = surroundings.probedConfig := by
  rw [Surroundings.config, henvironment]

/-- The environment is read without looking at files. -/
theorem environmentConfig_congr {others : Surroundings}
    (hsame : others.environment = surroundings.environment) :
    others.environmentConfig = surroundings.environmentConfig := by
  cases surroundings
  cases others
  cases hsame
  rfl

/-- Only what is at the places up to the first file has to stay. -/
theorem FirstFile.of_same {others : Surroundings} (hfirst : surroundings.FirstFile place file)
    (hdirectory : others.workingDirectory = surroundings.workingDirectory)
    (hsame : ∀ other, surroundings.Searches other → ¬ place.Before other →
      others.fileAt? (others.locate other) = surroundings.fileAt? (surroundings.locate other)) :
    others.FirstFile place file := by
  have hsearches : ∀ other, others.Searches other → surroundings.Searches other :=
    fun other hother => ⟨hother.above_le, hdirectory ▸ hother.above_le_length, hother.name_mem⟩
  refine ⟨⟨hfirst.searched.above_le, hdirectory ▸ hfirst.searched.above_le_length,
    hfirst.searched.name_mem⟩, ?_, fun other hother hbefore file hfile => ?_⟩
  · rw [hasFile_iff, hsame place hfirst.searched place.not_before_self]
    exact hasFile_iff.1 hfirst.file
  · have hsearched := hsearches other hother
    rw [hasFile_iff, hsame other hsearched hbefore.asymm, ← hasFile_iff] at hfile
    exact hfirst.first other hsearched hbefore file hfile

theorem FirstFile.config_eq {failure : Failure}
    (hfirst : surroundings.FirstFile place file)
    (henvironment : surroundings.environmentConfig = .error failure) :
    surroundings.config = readConfig place.name file := by
  rw [config_of_files henvironment, probedConfig_eq, hfirst.search_eq]
  simp [locate]

/-- A configuration in the environment counts whatever files there are.  Without one, the first
regular file decides, through what it tells, also if that is a failure: where its text says what is
on a sheet, in the format that its name ends in, it is the configuration that the sheet gives, if
that one is valid.  If there is no regular file, that is the failure.  So files at later places, and
all that is not looked at, change nothing. -/
theorem source_precedence :
    (∀ (surroundings others : Surroundings) config, surroundings.environmentConfig = .ok config →
      others.environment = surroundings.environment → others.config = .ok config) ∧
    (∀ (surroundings : Surroundings) failure place file,
      surroundings.environmentConfig = .error failure → surroundings.FirstFile place file →
        surroundings.probe = some (surroundings.locate place) ∧
        surroundings.config = readConfig place.name file ∧
        Tells place.name file surroundings.config) ∧
    (∀ (surroundings : Surroundings) failure place text format sheet,
      surroundings.environmentConfig = .error failure →
      surroundings.FirstFile place (.file (Text.utf8 text)) →
      format.suffix.toList <:+ place.name.toList → Sheet.SaidBy sheet format text →
      sheet.Distinct → ∀ config, surroundings.config = .ok config ↔
        sheet.Gives config ∧ config.validate = .ok ()) ∧
    (∀ (surroundings : Surroundings) failure, surroundings.environmentConfig = .error failure →
      surroundings.NoFile →
        surroundings.probe = none ∧ surroundings.config =
          .error (.config "No config file found in any of the standard locations")) ∧
    (∀ surroundings : Surroundings,
      (∃ place file, surroundings.FirstFile place file) ∨ surroundings.NoFile) ∧
    ∀ (surroundings others : Surroundings) place file,
      surroundings.FirstFile place file →
      others.environment = surroundings.environment →
      others.workingDirectory = surroundings.workingDirectory →
      (∀ other, surroundings.Searches other → ¬ place.Before other →
        others.fileAt? (others.locate other) = surroundings.fileAt? (surroundings.locate other)) →
      others.config = surroundings.config := by
  refine ⟨fun surroundings others config henvironment hsame => ?_,
    fun surroundings failure place file henvironment hfirst => ⟨?_, ?_, ?_⟩,
    fun surroundings failure place text format sheet henvironment hfirst hsuffix hsaid hdistinct
      config => ?_,
    fun surroundings failure henvironment hnone => ⟨?_, ?_⟩, firstFile_or_noFile,
    fun surroundings others place file hfirst hsame hdirectory hfiles => ?_⟩
  · exact config_of_environment ((environmentConfig_congr hsame).trans henvironment)
  · rw [probe_eq, hfirst.search_eq]
    rfl
  · exact hfirst.config_eq henvironment
  · rw [hfirst.config_eq henvironment]
    exact readConfig_tells hfirst.searched.name_mem hfirst.file.isFile
  · rw [hfirst.config_eq henvironment]
    exact readConfig_eq_ok_iff_gives hfirst.searched.name_mem hsuffix hsaid hdistinct
  · rw [probe_eq, hnone.search_eq]
    rfl
  · rw [config_of_files henvironment, probedConfig_eq, hnone.search_eq]
    rfl
  · have hother := hfirst.of_same hdirectory hfiles
    have hread := environmentConfig_congr hsame
    cases henvironment : surroundings.environmentConfig with
    | ok config =>
        rw [config_of_environment henvironment, config_of_environment (hread.trans henvironment)]
    | error failure =>
        rw [hfirst.config_eq henvironment, hother.config_eq (hread.trans henvironment)]

/-- A first file that holds no configuration, or cannot be read, hides a valid one after it, which
counts once there is no file before it. -/
theorem source_precedence_hidden :
    let config : Config :=
      { apiUrl := "https://api.test/v1", login := ⟨"user", "\"secret\"", "id", "key"⟩,
        maxRetries := 5 }
    let behind (first : FileTree.Entry) : Surroundings := {
      environment := []
      files := ⟨[(["srv", "graphlink.json"], first),
        (["srv", "graphlink.toml"], .file (Text.utf8 config.toToml))]⟩
      workingDirectory := ["srv"] }
    (behind (.file (Text.utf8 "\x7b\x7d"))).config =
        .error (.config "Invalid JSON format: missing field `api_url`") ∧
      (behind (.locked "Permission denied (os error 13)")).config =
        .error (.config "Failed to read config file: Permission denied (os error 13)") ∧
      (behind .directory).config = .ok config ∧
      Surroundings.config ⟨[], ⟨[]⟩, ["srv"]⟩ =
        .error (.config "No config file found in any of the standard locations") := by
  intro config behind
  have hwhole : config.Whole :=
    ⟨Duration.ofMillis_whole (by decide), Duration.ofMillis_whole (by decide),
      Duration.ofMillis_whole (by decide), Duration.ofMillis_whole (by decide)⟩
  have hvalid : config.validate = .ok () := by decide +kernel +zetaReduce
  have hfirst (first : FileTree.Entry) (hfile : first.isFile = true) :
      (behind first).FirstFile ⟨0, "graphlink.json"⟩ first := by
    refine ⟨⟨by decide, Nat.zero_le _, by decide⟩, ⟨rfl, hfile⟩, fun other hother hbefore => ?_⟩
    have hleast : fileNames.idxOf "graphlink.json" = 0 := by decide
    simp [Place.Before, hleast] at hbefore
  have hsecond : (behind .directory).FirstFile ⟨0, "graphlink.toml"⟩
      (.file (Text.utf8 config.toToml)) := by
    refine ⟨⟨by decide, Nat.zero_le _, by decide⟩, ⟨rfl, rfl⟩, ?_⟩
    rintro ⟨above, name⟩ hother hbefore file hfile
    have habove : above = 0 := by
      simp only [Place.Before] at hbefore
      omega
    subst habove
    -- only the preferred name comes before this one, and a directory stands there
    have hname : name = "graphlink.json" := by
      have hlisted := hother.name_mem
      simp only [fileNames, List.mem_cons, List.not_mem_nil, or_false] at hlisted
      rcases hlisted with rfl | rfl | rfl | rfl
      · rfl
      all_goals exact absurd (hbefore.resolve_left (Nat.lt_irrefl 0)).2 (by decide)
    subst hname
    cases hfile.entry
    cases hfile.isFile
  obtain ⟨-, hcounts, hsheet, hnone, -, -⟩ := source_precedence
  refine ⟨?_, ?_, ?_, ?_⟩
  · refine (hcounts _ _ _ _ rfl (hfirst _ rfl)).2.1.trans ?_
    decide +kernel
  · exact (hcounts _ _ _ _ rfl (hfirst _ rfl)).2.1
  · have hcounts := hsheet _ _ _ _ .toml config.sheet rfl hsecond (by decide)
      (Sheet.saidBy_toToml hwhole.sheet_fits) config.sheet_distinct config
    exact hcounts.2 ⟨hwhole.sheet_gives, hvalid⟩
  · refine (hnone _ _ rfl fun place hplace file hfile => ?_).2
    obtain ⟨hentry, hfile⟩ := hfile
    simp [FileTree.entry?, locate] at hentry

end BearerClient.Surroundings
