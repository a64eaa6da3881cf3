import Testbed.Files

/-!
# Paths keep leading to their files

Following a path looks at the kinds of the entries on its way and not at what texts hold. So what
leads to a file leads to it for as long as nothing is taken away or changes its kind, whatever is
written to files and whichever files are created.
-/
namespace Testbed

/-- Whether an entry is a text file. -/
def FileEntry.isText : FileEntry → Bool
  | text _ => true
  | directory => false

/-- An entry with a text put behind its own. -/
def FileEntry.extended (more : String) : FileEntry → FileEntry
  | text content => text (content ++ more)
  | directory => directory

namespace FileEntry

@[simp]
theorem isText_extended (more : String) (entry : FileEntry) :
    (entry.extended more).isText = entry.isText := by
  cases entry <;> rfl

@[simp]
theorem extended_empty : extended "" = id := by
  funext entry
  cases entry <;> simp [extended]

theorem extended_extended (first second : String) (entry : FileEntry) :
    (entry.extended first).extended second = entry.extended (first ++ second) := by
  cases entry <;> simp [extended, String.append_assoc]

end FileEntry

namespace Files

/-- Where the file is that a path leads to, if it leads to one. -/
def fileAt? (files : Files) (path : String) : Option String :=
  match files.target path with
  | .file place _ => some place
  | _ => none

/-- Whether every entry is also there among others, with its kind. -/
def Within (files others : Files) : Prop :=
  ∀ place entry, files.get? place = some entry →
    ∃ other, others.get? place = some other ∧ other.isText = entry.isText

/-- Whether all that differs among others are empty files at some of the places where there was
nothing. -/
def Grown (files others : Files) (places : String → Prop) : Prop :=
  ∀ place, others.get? place = files.get? place ∨
    files.get? place = none ∧ others.get? place = some (.text "") ∧ places place

variable {files others : Files} {above components : List String} {path place content : String}

theorem Grown.refl (files : Files) (places : String → Prop) : files.Grown files places :=
  fun _ => .inl rfl

theorem Grown.within {places : String → Prop} (grown : files.Grown others places) :
    files.Within others := by
  intro place entry found
  rcases grown place with same | ⟨absent, -, -⟩
  · exact ⟨entry, same.trans found, rfl⟩
  · rw [absent] at found
    cases found

theorem Grown.mono {places more : String → Prop} (grown : files.Grown others places)
    (weaker : ∀ place, places place → more place) : files.Grown others more :=
  fun place => (grown place).imp_right fun ⟨absent, empty, here⟩ =>
    ⟨absent, empty, weaker place here⟩

/-- A file that was created stays as it is while others are created. -/
theorem Grown.trans {between : Files} {places : String → Prop} (first : files.Grown between places)
    (second : between.Grown others places) : files.Grown others places := by
  intro place
  rcases second place with same | ⟨absent, empty, here⟩
  · rw [same]
    exact first place
  · rcases first place with same | ⟨-, created, -⟩
    · exact .inr ⟨same ▸ absent, empty, here⟩
    · rw [created] at absent
      cases absent

/-! ## Following a path -/

/-- The place of a file that is there or that could be put there. -/
def Target.place? : Target → Option String
  | file place _ | vacant place => some place
  | directory | unreachable _ => none

theorem get?_of_follow_file (found : follow files above components = .file place content) :
    files.get? place = some (.text content) := by
  fun_induction follow files above components
  case case2 _ _ _ _ ih => exact ih found
  case case4 _ _ _ _ ih => exact ih found
  case case6 _ _ _ _ _ _ _ _ ih => exact ih found
  case case7 held _ =>
    obtain ⟨rfl, rfl⟩ := Target.file.inj found
    exact held
  all_goals cases found

theorem get?_of_follow_vacant (found : follow files above components = .vacant place) :
    files.get? place = none := by
  fun_induction follow files above components
  case case2 _ _ _ _ ih => exact ih found
  case case4 _ _ _ _ ih => exact ih found
  case case6 _ _ _ _ _ _ _ _ ih => exact ih found
  case case9 absent _ =>
    obtain rfl := Target.vacant.inj found
    exact absent
  all_goals cases found

section Names

variable {name : String} {rest : List String} (plain : ¬ (name = "" ∨ name = "."))
  (down : name ≠ "..") (short : ¬ 255 < name.utf8ByteSize)

include plain down short

theorem follow_directory
    (found : files.get? ("/".intercalate (name :: above).reverse) = some .directory) :
    follow files above (name :: rest) = follow files (name :: above) rest := by
  rw [follow.eq_def]
  simp only [if_neg plain, if_neg down, if_neg short]
  rw [found]

theorem follow_file (last : rest.isEmpty = true)
    (found : files.get? ("/".intercalate (name :: above).reverse) = some (.text content)) :
    follow files above (name :: rest) =
      .file ("/".intercalate (name :: above).reverse) content := by
  rw [follow.eq_def]
  simp only [if_neg plain, if_neg down, if_neg short]
  rw [found]
  exact if_pos last

end Names

/-- A path that leads to a place leads to the file that is there now. -/
theorem follow_within (within : files.Within others)
    (leads : (follow files above components).place? = some place)
    (held : others.get? place = some (.text content)) :
    follow others above components = .file place content := by
  fun_induction follow files above components
  case case2 skipped ih => simpa [follow, skipped] using ih leads
  case case4 ih => simpa [follow] using ih leads
  case case6 plain down short here found ih =>
    -- A directory on the way is one among the others too.
    obtain ⟨other, kept, kind⟩ := within here _ found
    obtain rfl : other = .directory := by cases other <;> simp_all [FileEntry.isText]
    exact (follow_directory plain down short kept).trans (ih leads)
  case case7 plain down short here old found last =>
    obtain rfl := Option.some.inj leads
    exact follow_file plain down short last held
  case case9 plain down short here absent last =>
    obtain rfl := Option.some.inj leads
    exact follow_file plain down short last held
  all_goals cases leads

/-- A path that leads to a place is followed component by component, among any files. -/
theorem target_of_place? (leads : (files.target path).place? = some place) (others : Files) :
    others.target path = follow others [] (path.splitOn "/") := by
  unfold target at leads ⊢
  split at leads
  · cases leads
  · split at leads
    · cases leads
    · split at leads
      · split at leads <;> cases leads
      · rw [if_neg ‹_›, if_neg ‹_›, if_neg ‹_›]

theorem target_within (within : files.Within others)
    (leads : (files.target path).place? = some place)
    (held : others.get? place = some (.text content)) :
    others.target path = .file place content := by
  have followed := target_of_place? leads
  rw [followed files] at leads
  exact (followed others).trans (follow_within within leads held)

theorem get?_of_target_file (found : files.target path = .file place content) :
    files.get? place = some (.text content) := by
  have leads : (files.target path).place? = some place := by rw [found]; rfl
  rw [target_of_place? leads files] at found
  exact get?_of_follow_file found

theorem get?_of_target_vacant (found : files.target path = .vacant place) :
    files.get? place = none := by
  have leads : (files.target path).place? = some place := by rw [found]; rfl
  rw [target_of_place? leads files] at found
  exact get?_of_follow_vacant found

/-! ## The file of a path -/

theorem fileAt?_eq_some :
    files.fileAt? path = some place ↔ ∃ content, files.target path = .file place content := by
  unfold fileAt?
  split
  · rename_i found
    simp [found]
  · rename_i other
    constructor
    · nofun
    · rintro ⟨content, found⟩
      exact absurd found (other place content)

theorem get?_of_fileAt? (found : files.fileAt? path = some place) :
    ∃ content, files.get? place = some (.text content) := by
  obtain ⟨content, leads⟩ := fileAt?_eq_some.1 found
  exact ⟨content, get?_of_target_file leads⟩

/-- A path leads to the same file among more files. -/
theorem fileAt?_within (within : files.Within others) (found : files.fileAt? path = some place) :
    others.fileAt? path = some place := by
  obtain ⟨content, leads⟩ := fileAt?_eq_some.1 found
  obtain ⟨other, held, kind⟩ := within place _ (get?_of_target_file leads)
  cases other with
  | text content => exact fileAt?_eq_some.2 ⟨content, target_within within (by rw [leads]; rfl) held⟩
  | directory => cases kind

theorem fileAt?_eq (within : files.Within others) (without : others.Within files) (path : String) :
    others.fileAt? path = files.fileAt? path :=
  Option.ext fun _ => ⟨fileAt?_within without, fileAt?_within within⟩

/-! ## Opening and writing -/

/-- A file that is made sure of is there, and no other entry is touched. -/
theorem touch_ok (made : files.touch path = .ok others) :
    (∃ place, others.fileAt? path = some place) ∧
      files.Grown others (fun place => others.fileAt? path = some place) := by
  unfold touch at made
  split at made
  · rename_i place content found
    obtain rfl := Except.ok.inj made
    exact ⟨⟨place, fileAt?_eq_some.2 ⟨content, found⟩⟩, .refl files _⟩
  · rename_i place found
    obtain rfl := Except.ok.inj made
    have absent := get?_of_target_vacant found
    have grown : files.Grown (files.insert place (.text "")) (· = place) := by
      intro other
      rw [Dict.get?_insert]
      split
      · rename_i same
        exact .inr ⟨same ▸ absent, rfl, same⟩
      · exact .inl rfl
    have leads : (files.target path).place? = some place := by rw [found]; rfl
    have opened := target_within grown.within leads (Dict.get?_insert_self ..)
    have here := fileAt?_eq_some.2 ⟨"", opened⟩
    exact ⟨⟨place, here⟩, grown.mono fun _ same => same ▸ here⟩
  · cases made
  · cases made

/-- Text goes to the end of the file of its path and nowhere else. -/
theorem get?_append (files : Files) (path more place : String) :
    (files.append path more).get? place =
      if files.fileAt? path = some place then (files.get? place).map (.extended more)
      else files.get? place := by
  unfold append
  split
  · rename_i here content found
    have held := get?_of_target_file found
    rw [fileAt?_eq_some.2 ⟨content, found⟩, Dict.get?_insert]
    by_cases same : place = here
    · rw [if_pos same, if_pos (congrArg some same.symm), same, held]
      rfl
    · rw [if_neg same, if_neg (fun equal => same (Option.some.inj equal).symm)]
  · rename_i other
    have nowhere : files.fileAt? path ≠ some place := by
      intro found
      obtain ⟨content, leads⟩ := fileAt?_eq_some.1 found
      exact other place content leads
    rw [if_neg nowhere]

end Files

end Testbed
