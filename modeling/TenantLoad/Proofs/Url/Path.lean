import TenantLoad.Proofs.Url.Base
import TenantLoad.Proofs.Url.Percent
import Mathlib.Data.List.Induction

/-!
# Paths and their segments

No segment of a URL has a slash or a character that ends a path.  So the text of
a path can be taken apart at its slashes, which gives back the segments, and
URLs that agree but for their paths have different texts if these do.
-/

namespace TenantLoad
namespace Url

/-- Whether a character neither divides a path nor ends it. -/
def isInner (character : Char) : Bool := character != '/' && !Reader.endsPath character

/-- All characters of a text belong to one segment. -/
def IsSegment (text : String) : Prop := ∀ character ∈ text.toList, isInner character = true

/-- The texts that the path of a URL stands for between its slashes. -/
def decodedPath (url : Url) : List (Option (List Char)) :=
  ((url.pathText.toList.splitOn '/').drop 1).map Percent.decode?

/-! ## What is read has segments -/

section Segments

variable {segments : List String} {segment : List Char}

theorem isSegment_empty : IsSegment "" := by simp [IsSegment]

/-- What is written where the marks of a path are encoded is one segment, unless
a slash is left as it is. -/
theorem isSegment_encode
    {reserved : Percent.Reserved}
    {text : List Char}
    (encodesQuery : reserved '?' = true)
    (encodesFragment : reserved '#' = true)
    (undivided : reserved '/' = true ∨ '/' ∉ text) :
    IsSegment (String.ofList (Percent.encode reserved text)) := by
  intro character member
  rw [String.toList_ofList] at member
  rcases Percent.mem_encode member with ⟨inText, plain⟩ | escape
  · have noSlash : character ≠ '/' := by
      rintro rfl
      rcases undivided with encoded | absent
      · simp [encoded] at plain
      · exact absent inText
    have noQuery : character ≠ '?' := by
      rintro rfl
      simp [encodesQuery] at plain
    have noFragment : character ≠ '#' := by
      rintro rfl
      simp [encodesFragment] at plain
    simp [isInner, Reader.endsPath, noSlash, noQuery, noFragment]
  · have different : ∀ mark, Percent.isEscape mark = false → character ≠ mark := by
      rintro mark noEscape rfl
      simp [noEscape] at escape
    simp [isInner, Reader.endsPath, different '/' (by decide), different '?' (by decide),
      different '#' (by decide)]

namespace Reader

theorem subset_shorten
    (isFile : Bool)
    (segments : List String) :
    shorten isFile segments ⊆ segments := by
  unfold shorten
  split
  · split
    · exact List.Subset.refl _
    · exact List.nil_subset _
  · exact List.dropLast_subset _

/-- A path goes on with segments. -/
theorem isSegment_addSegment
    (isFile isLast : Bool)
    (before : ∀ text ∈ segments, IsSegment text)
    (isSegment : IsSegment (String.ofList segment)) :
    ∀ text ∈ addSegment isFile isLast segments segment, IsSegment text := by
  have last : ∀ text ∈ (if isLast then [""] else []), IsSegment text := by
    cases isLast <;> simp [isSegment_empty]
  unfold addSegment
  simp only
  split
  · exact List.forall_mem_append.mpr
      ⟨fun text member => before text (subset_shorten isFile segments member), last⟩
  · split
    · exact List.forall_mem_append.mpr ⟨before, last⟩
    · refine List.forall_mem_append.mpr ⟨before, List.forall_mem_singleton.mpr ?_⟩
      split
      · intro character member
        rw [String.toList_ofList, List.mem_append, List.mem_singleton] at member
        rcases member with first | rfl
        · exact isSegment character (by simpa using List.mem_of_mem_take first)
        · decide
      · exact isSegment

/-- The parts of a text between separators have no separators. -/
theorem forall_mem_splitOnP
    {Item : Type}
    (separates : Item → Bool)
    (items : List Item) :
    ∀ part ∈ items.splitOnP separates, ∀ item ∈ part, separates item = false := by
  induction items with
  | nil => simp
  | cons first rest inductionHypothesis =>
      rw [List.splitOnP_cons_eq_if_modifyHead]
      cases separated : separates first with
      | true => simpa using inductionHypothesis
      | false =>
          cases parts : rest.splitOnP separates with
          | nil => exact absurd parts (List.splitOnP_ne_nil _ _)
          | cons head tail =>
              rw [parts, List.forall_mem_cons] at inductionHypothesis
              simpa [separated] using inductionHypothesis

/-- The parts of a text between its slashes become segments. -/
theorem isSegment_of_mem_splitSegments
    {special : Bool}
    {input : List Char}
    (member : segment ∈ (splitSegments special input).map (Percent.encode Percent.pathSet)) :
    IsSegment (String.ofList segment) := by
  obtain ⟨part, isPart, rfl⟩ := List.mem_map.mp member
  refine isSegment_encode (by decide) (by decide) (Or.inr ?_)
  intro slash
  have := forall_mem_splitOnP _ _ part isPart '/' slash
  simp [isSlash] at this

theorem isSegment_foldl_addSegment
    (isFile : Bool)
    {parts : List (List Char)}
    (isSegment : ∀ part ∈ parts, IsSegment (String.ofList part)) :
    ∀ text ∈ parts.foldl (addSegment isFile false) [], IsSegment text := by
  induction parts using List.reverseRecOn with
  | nil => simp
  | append_singleton earlier last inductionHypothesis =>
      obtain ⟨ofEarlier, ofLast⟩ := List.forall_mem_append.mp isSegment
      rw [List.foldl_append]
      exact isSegment_addSegment _ _ (inductionHypothesis ofEarlier)
        (ofLast last (List.mem_singleton_self last))

theorem isSegment_readSegments
    (special isFile : Bool)
    (input : List Char) :
    ∀ text ∈ readSegments special isFile input, IsSegment text := by
  have isSegment : ∀ segment ∈ (splitSegments special input).map (Percent.encode Percent.pathSet),
      IsSegment (String.ofList segment) := fun _ => isSegment_of_mem_splitSegments
  unfold readSegments
  generalize (splitSegments special input).map (Percent.encode Percent.pathSet) = parts
    at isSegment
  have before := isSegment_foldl_addSegment isFile fun segment member =>
    isSegment segment (List.dropLast_subset parts member)
  simp only
  split
  · rename_i last found
    exact isSegment_addSegment _ _ before (isSegment last (List.mem_of_getLast? found))
  · exact before

theorem isSegment_readPath
    (special : Bool)
    (input : List Char) :
    ∀ text ∈ readPath special input, IsSegment text := by
  unfold readPath
  split
  · cases special <;> simp [isSegment_empty]
  · exact isSegment_readSegments _ _ _

theorem subset_dropEmpty (segments : List String) : dropEmpty segments ⊆ segments := by
  fun_induction dropEmpty segments with
  | case1 second rest inductionHypothesis =>
      exact List.Subset.trans inductionHypothesis (List.subset_cons_self ..)
  | case2 segments => exact List.Subset.refl _

end Reader

end Segments

variable {url other : Url}

namespace Reader

theorem isSegment_readLocal
    (scheme : String)
    (input : List Char) :
    ∀ text ∈ (readLocal scheme input).segments, IsSegment text := by
  unfold readLocal segments
  simp only
  split
  · rename_i rooted
    split at rooted
    · cases rooted
      exact isSegment_readSegments _ _ _
    · cases rooted
  · simp

end Reader

/-- The path of a URL that is read is made of segments. -/
theorem isSegment_of_parse
    {text : String}
    (isRead : parse text = .ok url) :
    ∀ segment ∈ url.segments, IsSegment segment := by
  rcases cases_of_parse isRead with ⟨_, file⟩ | ⟨_, _, authority⟩ | ⟨scheme, rest, -, rfl⟩
  · obtain ⟨-, path, rooted⟩ := Reader.exists_of_readFile file
    rw [segments, rooted]
    exact fun segment member =>
      Reader.isSegment_readSegments _ _ _ segment (Reader.subset_dropEmpty _ member)
  · obtain ⟨_, path, -, rooted⟩ := Reader.exists_of_readAuthority authority
    rw [segments, rooted]
    exact Reader.isSegment_readPath _ _
  · exact Reader.isSegment_readLocal scheme rest

/-! ## The text of a path -/

theorem segmentsText_append
    (first second : List String) :
    segmentsText (first ++ second) = segmentsText first ++ segmentsText second := by
  rw [← String.toList_inj]
  simp [segmentsText, String.toList_join]

/-- The text of a path is taken apart at its slashes. -/
theorem splitOn_segmentsText
    {segments : List String}
    (isSegment : ∀ text ∈ segments, IsSegment text) :
    (segmentsText segments).toList.splitOn '/' = [] :: segments.map String.toList := by
  have between : (segmentsText segments).toList =
      ['/'].intercalate ([] :: segments.map String.toList) := by
    induction segments with
    | nil => rfl
    | cons head rest inductionHypothesis =>
        have ofRest := inductionHypothesis (List.forall_mem_cons.mp isSegment).2
        rw [← List.singleton_append, segmentsText_append, String.toList_append, ofRest]
        cases rest <;> simp [segmentsText, List.intercalate_cons_cons]
  rw [between, List.splitOn_intercalate '/' ?_ (by simp)]
  intro part member slash
  rcases List.mem_cons.mp member with rfl | inSegments
  · cases slash
  · obtain ⟨segment, isOne, rfl⟩ := List.mem_map.mp inSegments
    have := isSegment segment isOne '/' slash
    simp [isInner] at this

/-- A path of segments stands for what its segments stand for. -/
theorem decodedPath_of_segments
    {segments : List String}
    (rooted : url.path = .rooted segments)
    (isSegment : ∀ text ∈ segments, IsSegment text) :
    url.decodedPath = segments.map fun segment => Percent.decode? segment.toList := by
  have text : url.pathText = segmentsText segments := by rw [pathText, rooted]
  rw [decodedPath, text, splitOn_segmentsText isSegment, List.drop_one, List.tail_cons,
    List.map_map]
  rfl

/-- URLs that agree in all but their paths have one text only if their paths
have. -/
theorem pathText_eq_of_text_eq
    (scheme : url.scheme = other.scheme)
    (authority : url.authorityText = other.authorityText)
    (query : url.query = other.query)
    (fragment : url.fragment = other.fragment)
    (same : url.text = other.text) :
    url.pathText = other.pathText := by
  unfold text at same
  rw [scheme, authority, query, fragment] at same
  simpa [← String.toList_inj] using same

end Url
end TenantLoad
