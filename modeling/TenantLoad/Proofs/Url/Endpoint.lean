import TenantLoad.Proofs.Url.Path
import TenantLoad.Url.Endpoint
import Mathlib.Algebra.Order.Ring.Nat
import Mathlib.Data.List.Sections
import Mathlib.Data.Nat.Cast.Order.Basic

/-!
# Where endpoints are found

A text that is appended to a path as one segment adds a segment that stands for
it, unless it is made of dots; tabs and line breaks do not count.  So the
address of an action on a table says what the slug of the table is, up to that.
-/

namespace TenantLoad
namespace Url

/-! ## Segments of dots -/

section Dots

variable {text segment : List Char}

/-- What becomes a character in lower case is the character or its capital. -/
theorem eq_or_eq_toUpper_of_toLower_eq
    {character lower : Char}
    (same : character.toLower = lower) :
    character = lower ∨ character = lower.toUpper := by
  subst same
  by_cases ascii : character.toNat < 0x80
  · exact Text.of_ascii
      (fun letter => letter = letter.toLower ∨ letter = letter.toLower.toUpper) (by decide) ascii
  · exact .inl (Text.toLower_of_not_ascii ascii).symm

/-- The spellings of a text in lower case. -/
def spellings (lower : List Char) : List (List Char) :=
  (lower.map fun character => [character, character.toUpper]).sections

theorem mem_spellings_of_map_toLower
    {lower : List Char}
    (same : segment.map Char.toLower = lower) :
    segment ∈ spellings lower := by
  subst same
  rw [spellings, List.mem_sections, List.map_map, List.forall₂_map_right_iff, List.forall₂_same]
  intro character _
  have spelled : character = character.toLower ∨ character = character.toLower.toUpper :=
    eq_or_eq_toUpper_of_toLower_eq rfl
  simpa using spelled

/-- However a segment of one dot is spelled, it stands for a dot. -/
theorem decodeBytes_of_isSingleDot
    (isDot : Reader.isSingleDot segment = true) :
    Percent.decodeBytes segment = Percent.decodeBytes ['.'] := by
  have all : ∀ lower ∈ [".", "%2e"], ∀ spelling ∈ spellings lower.toList,
      Percent.decodeBytes spelling = Percent.decodeBytes ['.'] := by decide +kernel
  refine all _ (List.contains_iff_mem.mp isDot) segment (mem_spellings_of_map_toLower ?_)
  exact String.toList_ofList.symm

/-- However a segment of two dots is spelled, it stands for two dots. -/
theorem decodeBytes_of_isDoubleDot
    (areDots : Reader.isDoubleDot segment = true) :
    Percent.decodeBytes segment = Percent.decodeBytes ['.', '.'] := by
  have all : ∀ lower ∈ ["..", "%2e.", ".%2e", "%2e%2e"], ∀ spelling ∈ spellings lower.toList,
      Percent.decodeBytes spelling = Percent.decodeBytes ['.', '.'] := by decide +kernel
  refine all _ (List.contains_iff_mem.mp areDots) segment (mem_spellings_of_map_toLower ?_)
  exact String.toList_ofList.symm

/-- The written form of a text, as a segment of a special scheme. -/
def writtenSegment (text : List Char) : List Char := Percent.encode Percent.specialSegmentSet text

theorem decode?_writtenSegment (text : List Char) :
    Percent.decode? (writtenSegment text) = some text :=
  Percent.decode?_encode (by decide) text

/-- Texts are one if they are written with the same bytes. -/
theorem eq_of_decodeBytes_writtenSegment
    {other : List Char}
    (same : Percent.decodeBytes (writtenSegment text) = Percent.decodeBytes (writtenSegment other)) :
    text = other := by
  have decoded : Percent.decode? (writtenSegment text) = Percent.decode? (writtenSegment other) := by
    rw [Percent.decode?, same, Percent.decode?]
  simpa only [decode?_writtenSegment, Option.some.injEq] using decoded

theorem isSingleDot_writtenSegment :
    Reader.isSingleDot (writtenSegment text) = true ↔ text = ['.'] := by
  refine ⟨fun isDot => eq_of_decodeBytes_writtenSegment ?_, ?_⟩
  · exact decodeBytes_of_isSingleDot isDot
  · rintro rfl
    decide

theorem isDoubleDot_writtenSegment :
    Reader.isDoubleDot (writtenSegment text) = true ↔ text = ['.', '.'] := by
  refine ⟨fun areDots => eq_of_decodeBytes_writtenSegment ?_, ?_⟩
  · exact decodeBytes_of_isDoubleDot areDots
  · rintro rfl
    decide

end Dots

/-! ## Turns -/

/-- What a text does to a path that it is appended to as one segment. -/
inductive Turn where
  /-- The path stays as it is. -/
  | stay
  /-- The last segment is taken away. -/
  | leave
  /-- A segment is added that stands for a text. -/
  | enter (text : List Char)
  deriving DecidableEq

namespace Turn

/-- The characters of a text that its segment is made of. -/
def kept (text : String) : List Char :=
  text.toList.filter fun character => !Reader.isDroppable character

/-- The turn that a path takes at a text. -/
def ofText (text : String) : Turn :=
  if text = "." ∨ text = ".." then .stay
  else if kept text = ['.', '.'] then .leave
  else if kept text = ['.'] then .enter []
  else .enter (kept text)

/-- The segments of a path behind a turn. -/
def after (segments : List String) : Turn → List String
  | .stay => segments
  | .leave => Reader.shorten false segments ++ [""]
  | .enter text => segments ++ [String.ofList (writtenSegment text)]

theorem kept_eq_iff
    {text : String} :
    kept text = text.toList ↔ ∀ character ∈ text.toList, Reader.isDroppable character = false := by
  simp [kept, List.filter_eq_self]

/-- A text is entered as it is unless it is made of dots or has characters that
do not count. -/
theorem ofText_eq_enter_iff
    {text : String} :
    ofText text = .enter text.toList ↔
      text ≠ "." ∧ text ≠ ".." ∧
        ∀ character ∈ text.toList, Reader.isDroppable character = false := by
  rw [← kept_eq_iff, ofText]
  split
  · rename_i areDots
    rcases areDots with rfl | rfl <;> simp
  rename_i noDots
  obtain ⟨notOne, notTwo⟩ := not_or.mp noDots
  split
  · rename_i keptDots
    simp only [keptDots, reduceCtorEq, false_iff]
    rintro ⟨-, -, same⟩
    exact notTwo (String.toList_inj.mp same.symm)
  · split
    · rename_i keptDot
      have notKept : kept text ≠ text.toList := by
        intro same
        exact notOne (String.toList_inj.mp (same.symm.trans keptDot))
      have notEmpty : text.toList ≠ [] := by
        intro empty
        simp [kept, empty] at keptDot
      simp [notKept, notEmpty.symm]
    · simp [notOne, notTwo]

end Turn

/-! ## Directories -/

/-- Two URLs lead to one host and port by one scheme, as one user. -/
structure SharesOrigin (url other : Url) : Prop where
  scheme : url.scheme = other.scheme
  username : url.username = other.username
  password : url.password = other.password
  host : url.host = other.host
  port : url.port = other.port

/-- What is known of a URL that a service is reached by. -/
structure IsService (url : Url) : Prop where
  isSpecial : url.isSpecial = true
  notFile : url.scheme ≠ fileScheme
  hasHost : url.host.isSome = true
  isBase : url.isBase = true
  isSegment : ∀ segment ∈ url.segments, IsSegment segment

/-- The folders on the way to what is found below a URL. -/
def folders (url : Url) : List String := url.asDirectory.segments.dropLast

/-- The folders that tables are found in: a single folder without a name is
taken for none. -/
def tableFolders (url : Url) : List String := if url.folders = [""] then [] else url.folders

section Directories

variable {url : Url} {segments : List String}

@[simp]
theorem segments_withSegments : (url.withSegments segments).segments = segments := rfl

@[simp]
theorem isSpecial_withSegments : (url.withSegments segments).isSpecial = url.isSpecial := rfl

@[simp]
theorem withSegments_withSegments
    {more : List String} :
    (url.withSegments segments).withSegments more = url.withSegments more :=
  rfl

theorem sharesOrigin_withSegments
    (url : Url)
    (segments : List String) :
    (url.withSegments segments).SharesOrigin url :=
  ⟨rfl, rfl, rfl, rfl, rfl⟩

/-- A directory is the URL with a slash at the end of its path. -/
theorem asDirectory_eq
    (isBase : url.isBase = true) :
    url.asDirectory = url.withSegments (url.folders ++ [""]) := by
  unfold folders asDirectory
  split
  · rename_i found
    rw [List.dropLast_append_getLast? "" found]
    obtain ⟨scheme, username, password, host, port, path, query, fragment⟩ := url
    cases path with
    | rooted segments => rfl
    | plain text => cases isBase
  · simp

/-- The folders on the way are segments of the path. -/
theorem folders_subset (url : Url) : url.folders ⊆ url.segments := by
  unfold folders asDirectory
  split
  · exact List.dropLast_subset _
  · simp

theorem tableFolders_subset (url : Url) : url.tableFolders ⊆ url.folders := by
  unfold tableFolders
  split <;> simp

/-! ## Appending to a path -/

theorem shorten_append_singleton
    (segments : List String)
    (last : String) :
    Reader.shorten false (segments ++ [last]) = segments := by
  match segments with
  | [] | [_] => rfl
  | first :: second :: rest =>
      show ((first :: second :: rest) ++ [last]).dropLast = first :: second :: rest
      exact List.dropLast_concat

theorem addSegment_writtenSegment
    {text : String}
    (turns : Turn.ofText text ≠ .stay) :
    Reader.addSegment false true segments (writtenSegment (Turn.kept text)) =
      (Turn.ofText text).after segments := by
  have noDots : ¬(text = "." ∨ text = "..") := by
    intro areDots
    simp [Turn.ofText, areDots] at turns
  unfold Reader.addSegment Turn.ofText
  simp only [isDoubleDot_writtenSegment, isSingleDot_writtenSegment, noDots, if_false]
  split
  · rfl
  · split
    · rfl
    · simp [Turn.after]

/-- A text is appended to a path as the turn says that the path takes at it. -/
theorem appendSegment_withSegments
    (service : url.IsService)
    {text : String}
    (turns : Turn.ofText text ≠ .stay) :
    (url.withSegments segments).appendSegment text =
      url.withSegments
        ((Turn.ofText text).after (if segments = [""] then [] else segments)) := by
  have noDots : ¬(text = "." ∨ text = "..") := by
    intro areDots
    simp [Turn.ofText, areDots] at turns
  have notFile : ((url.withSegments segments).scheme == fileScheme) = false :=
    beq_eq_false_iff_ne.mpr service.notFile
  rw [← addSegment_writtenSegment turns, appendSegment, if_neg noDots]
  simp only [notFile, isSpecial_withSegments, service.isSpecial, if_true, segments_withSegments,
    withSegments_withSegments]
  rfl

theorem appendSegment_of_stay
    {text : String}
    (stays : Turn.ofText text = .stay) :
    url.appendSegment text = url := by
  have areDots : text = "." ∨ text = ".." := by
    by_contra noDots
    rw [Turn.ofText, if_neg noDots] at stays
    split at stays <;> [cases stays; split at stays <;> cases stays]
  rw [appendSegment, if_pos areDots]

end Directories

/-! ## Actions on tables -/

/-- Whether a text is its own segment. -/
def IsPlain (text : String) : Prop :=
  Turn.ofText text = .enter text.toList ∧ String.ofList (writtenSegment text.toList) = text

instance (text : String) : Decidable (IsPlain text) := inferInstanceAs (Decidable (_ ∧ _))

/-- The segments before an action on a table. -/
def tableSegments (above : List String) : Turn → List String
  | .stay => above ++ ["tables"]
  | .leave => if above = [] then [] else above ++ [""]
  | .enter text => above ++ ["tables", String.ofList (writtenSegment text)]

section Actions

variable {url : Url} {slug action : String}

theorem appendSegment_of_isPlain
    (service : url.IsService)
    {segments : List String}
    (plain : IsPlain action) :
    (url.withSegments segments).appendSegment action =
      url.withSegments ((if segments = [""] then [] else segments) ++ [action]) := by
  have turns : Turn.ofText action ≠ .stay := by simp [plain.1]
  rw [appendSegment_withSegments service turns, plain.1, Turn.after, plain.2]

theorem dropEmptyLast_asDirectory
    (isBase : url.isBase = true) :
    url.asDirectory.dropEmptyLast =
      url.withSegments (if url.folders = [] then [""] else url.folders) := by
  rw [asDirectory_eq isBase, dropEmptyLast]
  cases empty : decide (url.folders = []) with
  | true => simp [of_decide_eq_true empty]
  | false =>
      have present : url.folders ≠ [] := of_decide_eq_false empty
      simp [present, List.length_pos_iff]

/-- The address of an action on a table goes from the folders to the tables,
takes the turn at the slug, and ends in the action. -/
theorem appendSegments_eq
    (service : url.IsService)
    (plain : IsPlain action) :
    url.asDirectory.dropEmptyLast.appendSegments ["tables", slug, action] =
      url.withSegments
        (tableSegments url.tableFolders (Turn.ofText slug) ++ [action]) := by
  have first : url.asDirectory.dropEmptyLast.appendSegment "tables" =
      url.withSegments (url.tableFolders ++ ["tables"]) := by
    rw [dropEmptyLast_asDirectory service.isBase,
      appendSegment_of_isPlain service (by decide), tableFolders]
    by_cases empty : url.folders = []
    · simp [empty]
    · simp [empty]
  have notEmpty : url.tableFolders ++ ["tables"] ≠ [""] := by
    cases url.tableFolders <;> simp
  have second : (url.withSegments (url.tableFolders ++ ["tables"])).appendSegment slug =
      url.withSegments ((Turn.ofText slug).after (url.tableFolders ++ ["tables"])) := by
    by_cases stays : Turn.ofText slug = .stay
    · rw [appendSegment_of_stay stays, stays, Turn.after]
    · rw [appendSegment_withSegments service stays, if_neg notEmpty]
  simp only [appendSegments, List.foldl_cons, List.foldl_nil]
  rw [first, second, appendSegment_of_isPlain service plain]
  congr 2
  cases Turn.ofText slug with
  | stay => simp [Turn.after, tableSegments, notEmpty]
  | leave =>
      rw [Turn.after, shorten_append_singleton, tableSegments]
      cases url.tableFolders <;> simp
  | enter text => cases url.tableFolders <;> simp [Turn.after, tableSegments]

/-- The way to the tables and the turn at the slug are told apart. -/
theorem tableSegments_inj
    {above : List String}
    {turn other : Turn} :
    tableSegments above turn = tableSegments above other ↔ turn = other := by
  have written : ∀ {text more : List Char},
      writtenSegment text = writtenSegment more ↔ text = more := by
    refine fun {text more} => ⟨fun same => ?_, congrArg _⟩
    exact eq_of_decodeBytes_writtenSegment (congrArg Percent.decodeBytes same)
  cases turn <;> cases other <;> cases above <;>
    simp [tableSegments, String.ofList_inj, written]

theorem decode?_of_isPlain
    (plain : IsPlain action) :
    Percent.decode? action.toList = some action.toList := by
  have same : writtenSegment action.toList = action.toList := by
    rw [← String.ofList_inj, plain.2, String.ofList_toList]
  rw [← decode?_writtenSegment, same]

theorem length_tableFolders_le (url : Url) : url.tableFolders.length ≤ url.folders.length := by
  unfold tableFolders
  split <;> simp

/-- No folder is lost unless it is a single one without a name. -/
theorem length_tableFolders_eq_iff :
    url.tableFolders.length = url.folders.length ↔ url.folders ≠ [""] := by
  unfold tableFolders
  split <;> simp_all

/-- Two segments are added only where a text is entered. -/
theorem exists_eq_enter_of_length
    {above : List String}
    {turn : Turn}
    (long : above.length + 2 ≤ (tableSegments above turn).length) :
    ∃ text, turn = .enter text := by
  cases turn with
  | stay => simp [tableSegments] at long
  | leave => by_cases empty : above = [] <;> simp [tableSegments, empty] at long
  | enter text => exact ⟨text, rfl⟩

/-- What the address of an action on a table stands for whose slug is entered. -/
theorem map_decode?_tableSegments_enter
    (plain : IsPlain action)
    (above : List String)
    (text : List Char) :
    (tableSegments above (.enter text) ++ [action]).map
        (fun segment => Percent.decode? segment.toList) =
      above.map (fun segment => Percent.decode? segment.toList) ++
        [some "tables".toList, some text, some action.toList] := by
  have ofTables : Percent.decode? "tables".toList = some "tables".toList :=
    decode?_of_isPlain (by decide)
  simp only [tableSegments, List.map_append, List.map_cons, List.map_nil, List.append_assoc,
    List.cons_append, List.nil_append, String.toList_ofList, decode?_writtenSegment, ofTables,
    decode?_of_isPlain plain]

/-- The address of an action stands for the folders, the tables, the slug and the
action exactly if the slug is entered as it is and no folder is lost. -/
theorem map_decode?_tableSegments_eq_iff
    (plain : IsPlain action) :
    (tableSegments url.tableFolders (Turn.ofText slug) ++ [action]).map
          (fun segment => Percent.decode? segment.toList) =
        url.folders.map (fun segment => Percent.decode? segment.toList) ++
          [some "tables".toList, some slug.toList, some action.toList] ↔
      Turn.ofText slug = .enter slug.toList ∧ url.folders ≠ [""] := by
  constructor
  · intro same
    have noMore := url.length_tableFolders_le
    have lengths := congrArg List.length same
    simp only [List.length_map, List.length_append, List.length_cons, List.length_nil] at lengths
    have long : url.tableFolders.length + 2 ≤
        (tableSegments url.tableFolders (Turn.ofText slug)).length := by omega
    obtain ⟨text, turn⟩ := exists_eq_enter_of_length long
    have kept : url.folders ≠ [""] := by
      simp only [turn, tableSegments, List.length_append, List.length_cons,
        List.length_nil] at lengths
      exact length_tableFolders_eq_iff.mp (by omega)
    rw [turn, tableFolders, if_neg kept, map_decode?_tableSegments_enter plain] at same
    have ofSlug : text = slug.toList := by simpa using same
    exact ⟨ofSlug ▸ turn, kept⟩
  · rintro ⟨turn, kept⟩
    rw [turn, tableFolders, if_neg kept, map_decode?_tableSegments_enter plain]

/-- An address on a table is made of segments. -/
theorem isSegment_tableSegments
    (service : url.IsService)
    (plain : IsPlain action)
    (turn : Turn) :
    ∀ segment ∈ tableSegments url.tableFolders turn ++ [action], IsSegment segment := by
  have written : ∀ text, IsSegment (String.ofList (writtenSegment text)) := fun text =>
    isSegment_encode (by decide) (by decide) (.inl (by decide))
  have ofAction : IsSegment action := plain.2 ▸ written action.toList
  have tablesPlain : IsPlain "tables" := by decide
  have ofTables : IsSegment "tables" := tablesPlain.2 ▸ written "tables".toList
  have ofFolders : ∀ segment ∈ url.tableFolders, IsSegment segment := fun segment member =>
    service.isSegment segment (url.folders_subset (url.tableFolders_subset member))
  cases turn with
  | stay => simpa [tableSegments, or_imp, forall_and, ofTables, ofAction] using ofFolders
  | leave =>
      by_cases empty : url.tableFolders = []
      · simpa [tableSegments, empty] using ofAction
      · simpa [tableSegments, empty, or_imp, forall_and, isSegment_empty, ofAction] using ofFolders
  | enter text =>
      simpa [tableSegments, or_imp, forall_and, ofTables, ofAction, written] using ofFolders

end Actions

/-! ## Texts of addresses -/

section Texts

variable {url : Url} {segments others : List String}

theorem segmentsText_inj
    (isSegment : ∀ segment ∈ segments, IsSegment segment)
    (areSegments : ∀ segment ∈ others, IsSegment segment)
    (same : segmentsText segments = segmentsText others) :
    segments = others := by
  have parts := congrArg (fun text => text.toList.splitOn '/') same
  simp only [splitOn_segmentsText isSegment, splitOn_segmentsText areSegments,
    List.cons.injEq, true_and] at parts
  exact List.map_injective_iff.mpr (fun _ _ => String.toList_inj.mp) parts

/-- URLs on one host that differ in their segments have different texts. -/
theorem text_withSegments_inj
    (hasHost : url.host.isSome = true)
    (isSegment : ∀ segment ∈ segments, IsSegment segment)
    (areSegments : ∀ segment ∈ others, IsSegment segment) :
    (url.withSegments segments).text = (url.withSegments others).text ↔ segments = others := by
  refine ⟨fun same => segmentsText_inj isSegment areSegments ?_, fun same => by rw [same]⟩
  have authority :
      (url.withSegments segments).authorityText = (url.withSegments others).authorityText := by
    obtain ⟨host, found⟩ := Option.isSome_iff_exists.mp hasHost
    simp [authorityText, userText, withSegments, found]
  have paths : (url.withSegments segments).pathText = (url.withSegments others).pathText :=
    pathText_eq_of_text_eq rfl authority rfl rfl same
  exact paths

/-- A folder without a name stands alone exactly under a path of two slashes. -/
theorem folders_eq_iff
    (service : url.IsService) :
    url.folders = [""] ↔ url.pathText = "//" := by
  obtain ⟨segments, path⟩ : ∃ segments, url.path = .rooted segments := by
    have rooted := service.isBase
    unfold isBase at rooted
    split at rooted
    · exact ⟨_, ‹_›⟩
    · cases rooted
  have ofPath : url.segments = segments := by rw [Url.segments, path]
  have twice : segments = ["", ""] ↔ url.pathText = "//" := by
    rw [pathText, path]
    refine ⟨by rintro rfl; rfl, fun same => ?_⟩
    exact segmentsText_inj (ofPath ▸ service.isSegment) (by simp [isSegment_empty]) same
  rw [← twice, folders, asDirectory, ofPath]
  split
  · rename_i found
    constructor
    · intro one
      rw [← List.dropLast_append_getLast? "" found, ← ofPath, one]
      rfl
    · rintro rfl
      rw [ofPath]
      rfl
  · rename_i last
    constructor
    · rintro one
      rw [segments_withSegments, List.dropLast_concat] at one
      simp [one] at last
    · rintro rfl
      simp at last

/-- What a directory stands for before its last slash. -/
theorem decodedPath_asDirectory
    (service : url.IsService) :
    url.asDirectory.decodedPath.dropLast =
      url.folders.map fun segment => Percent.decode? segment.toList := by
  have isSegment : ∀ segment ∈ url.folders ++ [""], IsSegment segment :=
    List.forall_mem_append.mpr
      ⟨fun segment member => service.isSegment segment (url.folders_subset member),
        by simp [isSegment_empty]⟩
  rw [asDirectory_eq service.isBase, decodedPath_of_segments rfl isSegment, List.map_append,
    List.map_singleton, List.dropLast_concat]

/-! ## Below a directory -/

/-- Whether the path of a URL goes on from that of a directory. -/
def IsBelow (url directory : Url) : Prop := directory.pathText.toList <+: url.pathText.toList

instance (url directory : Url) : Decidable (url.IsBelow directory) :=
  inferInstanceAs (Decidable (_ <+: _))

/-- What is added to the folders of a URL is below its directory. -/
theorem isBelow_asDirectory
    {address : Url}
    {first : String}
    {rest : List String}
    (isBase : url.isBase = true)
    (path : address.path = .rooted (url.folders ++ first :: rest)) :
    address.IsBelow url.asDirectory := by
  have slash : (segmentsText [""]).toList <+: (segmentsText (first :: rest)).toList := by
    simp [segmentsText, String.toList_join]
  have directory : url.asDirectory.pathText = segmentsText url.folders ++ segmentsText [""] := by
    rw [asDirectory_eq isBase, ← segmentsText_append]
    rfl
  rw [IsBelow, directory, pathText, path]
  simp only [segmentsText_append, String.toList_append]
  exact (List.prefix_append_right_inj _).mpr slash

/-- An address on a table goes on from the folders that tables are found in. -/
theorem exists_tableSegments_eq_append
    (above : List String)
    (turn : Turn)
    (action : String) :
    ∃ first rest, tableSegments above turn ++ [action] = above ++ first :: rest ∧
      (above = [] → first = "tables" ∨ first = action) := by
  cases turn with
  | stay => exact ⟨"tables", [action], by simp [tableSegments], fun _ => .inl rfl⟩
  | leave =>
      by_cases empty : above = []
      · exact ⟨action, [], by simp [tableSegments, empty], fun _ => .inr rfl⟩
      · exact ⟨"", [action], by simp [tableSegments, empty], fun none => absurd none empty⟩
  | enter text => exact ⟨"tables", _, by simp [tableSegments]; rfl, fun _ => .inl rfl⟩

/-- A path whose first segment has a name does not go on from two slashes. -/
theorem not_isBelow_of_segment
    {address directory : Url}
    {first : String}
    {rest : List String}
    (slashes : directory.pathText = "//")
    (isSegment : IsSegment first)
    (named : first ≠ "")
    (path : address.path = .rooted (first :: rest)) :
    ¬address.IsBelow directory := by
  intro below
  obtain ⟨letter, letters, found⟩ := List.exists_cons_of_ne_nil
    (mt String.toList_eq_nil_iff.mp named)
  have text : address.pathText.toList = '/' :: letter :: (letters ++ (segmentsText rest).toList) := by
    rw [pathText, path]
    simp [segmentsText, found]
  rw [IsBelow, slashes, text] at below
  have slash : '/' = letter := by simpa using below
  have inner := isSegment letter (by simp [found])
  simp [← slash, isInner] at inner

end Texts

end Url
end TenantLoad
