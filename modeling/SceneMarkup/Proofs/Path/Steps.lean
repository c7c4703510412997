import Mathlib.Data.List.Basic
import SceneMarkup.Path

namespace SceneMarkup
namespace Path

/-!
# The steps of a path

A path is cut at its slashes.  Empty pieces and dots are passed over, and the others are
the steps that the path takes; all that a path has besides its steps is what it starts
from.  What is put together with slashes takes the steps of its parts one after the
other, so a path that is put behind another one goes on with its own steps.

The directory of a path is cut off as text, with whatever stands for no segment at its
end.  It takes the steps of the path without the last one and starts from the same
place, unless the path lies in no directory.
-/

/-! ## Pieces -/

theorem splitFrom_eq (piece chars : List Char) :
    splitFrom piece chars = List.splitOnPPrepend (· == '/') chars piece := by
  induction chars generalizing piece with
  | nil => rfl
  | cons char rest ih =>
      simp only [splitFrom, List.splitOnPPrepend_cons_eq_if, ih, List.splitOnPPrepend_nil_right,
        beq_iff_eq]

theorem pieces_eq (path : String) :
    pieces path = (path.toList.splitOn '/').map String.ofList := by
  rw [pieces, splitFrom_eq, List.splitOnPPrepend_nil_right, List.splitOn]

theorem pieces_append_slash (left right : String) :
    pieces (left ++ "/" ++ right) = pieces left ++ pieces right := by
  have letters : (left ++ "/" ++ right).toList = left.toList ++ '/' :: right.toList := by simp
  rw [pieces_eq, letters, List.splitOn_append_cons_self, List.map_append, ← pieces_eq, ← pieces_eq]

theorem pieces_intercalate {parts : List String} (nonempty : parts ≠ [])
    (whole : forall part, part ∈ parts -> '/' ∉ part.toList) :
    pieces ("/".intercalate parts) = parts := by
  have letters : forall word, word ∈ parts.map String.toList -> '/' ∉ word := by
    rintro word member
    rcases List.mem_map.mp member with ⟨part, listed, same⟩
    exact same ▸ whole part listed
  have restored : List.splitOn '/' (['/'].intercalate (parts.map String.toList)) = _ :=
    List.splitOn_intercalate '/' letters (by simpa using nonempty)
  rw [pieces_eq, String.toList_intercalate]
  change (List.splitOn '/' (['/'].intercalate _)).map _ = _
  rw [restored, List.map_map]
  simp

theorem intercalate_pieces (path : String) : "/".intercalate (pieces path) = path := by
  apply String.toList_inj.mp
  rw [String.toList_intercalate, pieces_eq, List.map_map]
  have same : String.toList ∘ String.ofList = id := funext fun _ => String.toList_ofList
  rw [same, List.map_id]
  exact List.intercalate_splitOn '/'

theorem not_slash_of_mem_splitFrom {piece chars word : List Char} (plain : '/' ∉ piece)
    (member : word ∈ splitFrom piece chars) : '/' ∉ word := by
  induction chars generalizing piece with
  | nil =>
      rw [splitFrom, List.mem_singleton] at member
      rw [member, List.mem_reverse]
      exact plain
  | cons char rest ih =>
      rw [splitFrom] at member
      split at member
      · rcases List.mem_cons.mp member with same | later
        · rw [same, List.mem_reverse]
          exact plain
        · exact ih List.not_mem_nil later
      · rename_i different
        refine ih ?_ member
        rw [List.mem_cons, not_or]
        exact ⟨fun same => different same.symm, plain⟩

theorem not_slash_of_mem_pieces {path piece : String} (member : piece ∈ pieces path) :
    '/' ∉ piece.toList := by
  rcases List.mem_map.mp member with ⟨word, listed, same⟩
  rw [← same, String.toList_ofList]
  exact not_slash_of_mem_splitFrom List.not_mem_nil listed

/-! ## Steps -/

/-- The steps that a path takes from where it starts: names, and steps up. -/
def steps (path : String) : List Segment :=
  (pieces path).filterMap segmentOfPiece?

theorem steps_append_slash (left right : String) :
    steps (left ++ "/" ++ right) = steps left ++ steps right := by
  rw [steps, pieces_append_slash, List.filterMap_append]
  rfl

theorem steps_slash (text : String) : steps ("/" ++ text) = steps text := by
  have behind := steps_append_slash "" text
  rw [String.empty_append] at behind
  exact behind

/-- A text that can be one part of a path. -/
structure IsPart (text : String) : Prop where
  nonempty : text ≠ ""
  notHere : text ≠ "."
  whole : '/' ∉ text.toList

theorem isPart_up : IsPart ".." :=
  ⟨by decide, by decide, by decide⟩

/-- The segment that a part stands for. -/
def segmentOf (part : String) : Segment :=
  if part = ".." then .up else .name part

theorem segmentOfPiece?_of_isPart {part : String} (isPart : IsPart part) :
    segmentOfPiece? part = some (segmentOf part) := by
  rw [segmentOfPiece?, if_neg (not_or.mpr ⟨isPart.nonempty, isPart.notHere⟩), segmentOf]
  split <;> rfl

/-- All parts stand for segments. -/
theorem filterMap_segmentOfPiece? {parts : List String}
    (areParts : forall part, part ∈ parts -> IsPart part) :
    parts.filterMap segmentOfPiece? = parts.map segmentOf := by
  rw [← List.filterMap_eq_map]
  exact List.filterMap_congr fun part member => segmentOfPiece?_of_isPart (areParts part member)

/-- Pieces put together with slashes are taken apart again. -/
theorem steps_intercalate {parts : List String}
    (plain : forall part, part ∈ parts -> '/' ∉ part.toList) :
    steps ("/".intercalate parts) = parts.filterMap segmentOfPiece? := by
  by_cases empty : parts = []
  · rw [empty]
    decide
  · rw [steps, pieces_intercalate empty plain]

/-- A segment that a piece of a path can stand for. -/
inductive IsStep : Segment -> Prop where
  | up : IsStep .up
  | name {text : String} (isPart : IsPart text) (notUp : text ≠ "..") : IsStep (.name text)

theorem isStep_of_mem_steps {path : String} {segment : Segment} (member : segment ∈ steps path) :
    IsStep segment := by
  rcases List.mem_filterMap.mp member with ⟨piece, listed, stands⟩
  rw [segmentOfPiece?] at stands
  split at stands
  · cases stands
  · rename_i real
    rw [not_or] at real
    split at stands
    · rw [← Option.some.inj stands]
      exact .up
    · rename_i notUp
      rw [← Option.some.inj stands]
      exact .name ⟨real.1, real.2, not_slash_of_mem_pieces listed⟩ notUp

/-- What a path may have in front of its steps: the root, or the dot of a relative
path that begins with one. -/
def origin (path : String) : List Segment :=
  if isRooted path then [.root]
  else if (pieces path).head? = some "." then [.here]
  else []

theorem segments_eq (path : String) : segments path = origin path ++ steps path := by
  rw [segments, origin, steps]
  split
  · rfl
  · split <;> rfl

/-! ## Joining paths -/

theorem isRooted_slash (text : String) : isRooted ("/" ++ text) = true := by
  rw [isRooted, String.toList_append]
  rfl

theorem isRooted_of_no_slash {path : String} (plain : '/' ∉ path.toList) :
    isRooted path = false := by
  rw [isRooted, beq_eq_false_iff_ne]
  exact fun first => plain (List.mem_of_head? first)

theorem isRooted_append {left : String} (nonempty : left ≠ "") (right : String) :
    isRooted (left ++ right) = isRooted left := by
  have letters : left.toList ≠ [] := by simpa using nonempty
  rw [isRooted, isRooted, String.toList_append, List.head?_append_of_ne_nil _ letters]

theorem join_of_relative {right : String} (relative : isRooted right = false) (left : String) :
    (left = "" ∧ join left right = right) ∨
      (Exists fun front => left = front ++ "/" ∧ join left right = front ++ "/" ++ right) ∨
      (left ≠ "" ∧ join left right = left ++ "/" ++ right) := by
  rw [join, relative, if_neg (by decide)]
  by_cases empty : left = ""
  · rw [empty]
    exact Or.inl ⟨rfl, by rw [if_pos (Or.inl rfl), String.empty_append]⟩
  by_cases slash : left.toList.getLast? = some '/'
  · rcases List.getLast?_eq_some_iff.mp slash with ⟨front, letters⟩
    have split : left = String.ofList front ++ "/" := by
      apply String.toList_inj.mp
      rw [letters, String.toList_append, String.toList_ofList]
      rfl
    refine Or.inr (Or.inl ⟨String.ofList front, split, ?_⟩)
    rw [if_pos (Or.inr slash), ← split]
  · exact Or.inr (Or.inr ⟨empty, if_neg (not_or.mpr ⟨empty, slash⟩)⟩)

/-- A relative path that is put behind another one goes on with its own steps. -/
theorem steps_join {right : String} (relative : isRooted right = false) (left : String) :
    steps (join left right) = steps left ++ steps right := by
  rcases join_of_relative relative left with
    ⟨empty, joined⟩ | ⟨front, split, joined⟩ | ⟨_, joined⟩
  · rw [joined, empty]
    rfl
  · have added := steps_append_slash front ""
    rw [String.append_empty, ← split] at added
    rw [joined, steps_append_slash, added]
    exact congrArg (· ++ steps right) (List.append_nil (steps front)).symm
  · rw [joined, steps_append_slash]

theorem isRooted_join {right : String} (relative : isRooted right = false) (left : String) :
    isRooted (join left right) = isRooted left := by
  rcases join_of_relative relative left with
    ⟨empty, joined⟩ | ⟨front, split, joined⟩ | ⟨nonempty, joined⟩
  · rw [joined, empty, relative]
    decide
  · rw [joined, ← split]
    exact isRooted_append (by rw [split]; simp) right
  · rw [joined, String.append_assoc]
    exact isRooted_append nonempty _

/-! ## The directory of a path -/

/-- Dropping what stands for no segment changes no steps. -/
theorem filterMap_dropBlankTail (rooted : Bool) (reversed : List String) :
    (dropBlankTail rooted reversed).filterMap segmentOfPiece? =
      reversed.filterMap segmentOfPiece? := by
  induction reversed with
  | nil => rfl
  | cons piece rest ih =>
      rw [dropBlankTail]
      split
      · rename_i empty
        rw [ih, List.filterMap_cons_none (by rw [empty]; decide)]
      · split
        · rename_i dot
          rw [ih, List.filterMap_cons_none (by rw [dot.1]; decide)]
        · rfl

theorem dropBlankTail_isSuffix (rooted : Bool) (reversed : List String) :
    dropBlankTail rooted reversed <:+ reversed := by
  induction reversed with
  | nil => exact List.nil_suffix
  | cons piece rest ih =>
      rw [dropBlankTail]
      split
      · exact ih.trans (List.suffix_cons piece rest)
      · split
        · exact ih.trans (List.suffix_cons piece rest)
        · exact List.suffix_rfl

/-- Once nothing is left to drop, what stands last is one step, or all there is. -/
theorem filterMap_drop_dropBlankTail (rooted : Bool) (reversed : List String) :
    ((dropBlankTail rooted reversed).drop 1).filterMap segmentOfPiece? =
      (reversed.filterMap segmentOfPiece?).drop 1 := by
  rw [← filterMap_dropBlankTail rooted reversed]
  induction reversed with
  | nil => rfl
  | cons piece rest ih =>
      rw [dropBlankTail]
      split
      · exact ih
      · rename_i nonempty
        split
        · exact ih
        · rename_i kept
          rw [List.drop_one, List.tail_cons]
          by_cases dot : piece = "."
          · rw [not_and, not_or, not_not] at kept
            rw [(kept dot).2, dot]
            rfl
          · rcases stands : segmentOfPiece? piece with _ | segment
            · rw [segmentOfPiece?, if_neg (not_or.mpr ⟨nonempty, dot⟩)] at stands
              split at stands <;> cases stands
            · rw [List.filterMap_cons_some stands, List.drop_one, List.tail_cons]

/-- The pieces of the directory that a path lies in, in reverse. -/
def piecesAbove (path : String) : List String :=
  let body := if isRooted path then (pieces path).drop 1 else pieces path
  dropBlankTail (isRooted path) ((dropBlankTail (isRooted path) body.reverse).drop 1)

theorem directoryText_eq (path : String) :
    directoryText path =
      if hasParent path then
        if isRooted path then "/" ++ "/".intercalate (piecesAbove path).reverse
        else "/".intercalate (piecesAbove path).reverse
      else "" := rfl

theorem pieces_of_isRooted {path : String} (rooted : isRooted path = true) :
    pieces path = "" :: (pieces path).drop 1 := by
  rw [isRooted, beq_iff_eq, List.head?_eq_some_iff] at rooted
  rcases rooted with ⟨rest, letters⟩
  have split : path = "" ++ "/" ++ String.ofList rest := by
    apply String.toList_inj.mp
    simp [letters]
  rw [split, pieces_append_slash]
  rfl

theorem reverse_piecesAbove_isPrefix (path : String) :
    (piecesAbove path).reverse <+: if isRooted path then (pieces path).drop 1 else pieces path := by
  rw [← List.reverse_reverse (ite _ _ _), List.reverse_prefix]
  exact (dropBlankTail_isSuffix _ _).trans
    ((List.drop_suffix _ _).trans (dropBlankTail_isSuffix _ _))

theorem filterMap_piecesAbove (path : String) :
    (piecesAbove path).reverse.filterMap segmentOfPiece? = (steps path).dropLast := by
  have body : (if isRooted path then (pieces path).drop 1 else pieces path).filterMap
      segmentOfPiece? = steps path := by
    split
    · rename_i rooted
      rw [steps, pieces_of_isRooted rooted]
      rfl
    · rfl
  rw [List.filterMap_reverse, piecesAbove, filterMap_dropBlankTail,
    filterMap_drop_dropBlankTail, List.filterMap_reverse, body, List.drop_one, List.tail_reverse,
    List.reverse_reverse]

theorem steps_of_hasParent_eq_false {path : String} (noParent : hasParent path = false) :
    steps path = [] := by
  by_contra some
  have last : (segments path).getLast? = (steps path).getLast? := by
    rw [segments_eq, List.getLast?_append_of_ne_nil _ some]
  rw [hasParent, last, List.getLast?_eq_some_getLast some] at noParent
  have isStep := isStep_of_mem_steps (List.getLast_mem some)
  cases found : (steps path).getLast some with
  | up | name text =>
      rw [found] at noParent
      cases noParent
  | root | here =>
      rw [found] at isStep
      cases isStep

/-- The directory of a path takes the same steps up to the last one. -/
theorem steps_directoryText (path : String) :
    steps (directoryText path) = (steps path).dropLast := by
  have plain : forall piece, piece ∈ (piecesAbove path).reverse -> '/' ∉ piece.toList := by
    intro piece member
    have listed := (reverse_piecesAbove_isPrefix path).subset member
    split at listed
    · exact not_slash_of_mem_pieces (List.mem_of_mem_drop listed)
    · exact not_slash_of_mem_pieces listed
  rw [directoryText_eq]
  split
  · rw [← filterMap_piecesAbove, ← steps_intercalate plain]
    split
    · exact steps_slash _
    · rfl
  · rename_i noParent
    rw [steps_of_hasParent_eq_false (Bool.eq_false_iff.mpr noParent)]
    rfl

theorem isRooted_intercalate {piece : String} (plain : '/' ∉ piece.toList) (rest : List String) :
    isRooted ("/".intercalate (piece :: rest)) = (piece == "" && !rest.isEmpty) := by
  have unrooted := isRooted_of_no_slash plain
  cases rest with
  | nil => simp [String.intercalate_singleton, unrooted]
  | cons next others =>
      rw [String.intercalate_cons_cons]
      by_cases empty : piece = ""
      · subst empty
        rw [String.empty_append, isRooted_slash]
        rfl
      · rw [String.append_assoc, isRooted_append empty, unrooted]
        simp [empty]

/-- What a relative path begins with is relative. -/
theorem isRooted_of_isPrefix {path : String} {front : List String} (begins : front <+: pieces path)
    (relative : isRooted path = false) : isRooted ("/".intercalate front) = false := by
  cases front with
  | nil => decide
  | cons piece rest =>
      rcases begins with ⟨others, split⟩
      have listed : piece ∈ pieces path := split ▸ List.mem_cons_self
      have whole := isRooted_intercalate (not_slash_of_mem_pieces listed) (rest ++ others)
      rw [← List.cons_append, split, intercalate_pieces, relative] at whole
      rw [isRooted_intercalate (not_slash_of_mem_pieces listed)]
      cases rest with
      | nil => exact Bool.and_false _
      | cons next further => exact whole.symm

theorem isRooted_directoryText (path : String) :
    isRooted (directoryText path) = (isRooted path && hasParent path) := by
  rw [directoryText_eq]
  split
  · rename_i parent
    rw [parent, Bool.and_true]
    split
    · rename_i rooted
      rw [isRooted_slash, rooted]
    · rename_i relative
      have front := reverse_piecesAbove_isPrefix path
      rw [if_neg relative] at front
      rw [Bool.eq_false_iff.mpr relative]
      exact isRooted_of_isPrefix front (Bool.eq_false_iff.mpr relative)
  · rename_i noParent
    rw [Bool.eq_false_iff.mpr noParent, Bool.and_false]
    decide

end Path
end SceneMarkup
