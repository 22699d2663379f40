import Mathlib.Algebra.BigOperators.Group.List.Basic
import Mathlib.Data.List.Perm.Basic

/-!
# Journals with sweeps

A journal of lines under sections that stand one after the other.  A section writes a
line, or sweeps the journal, keeping some lines and writing a summary with the digests of
the others, or leaves it alone.  Every line written is still there, or its digest is in a
summary.
-/

namespace OdinSentinel.Journal

/-- What one section did. -/
inductive Section (Line Digest : Type)
  | idle
  | write (line : Line)
  | sweep (summary : Line) (digests : List Digest)

namespace Section

variable {Line Digest : Type}

/-- The line that a section added. -/
def added : Section Line Digest → Option Line
  | .idle => none
  | .write line => some line
  | .sweep summary _ => some summary

/-- The digests that a section recorded. -/
def recorded : Section Line Digest → List Digest
  | .sweep _ digests => digests
  | _ => []

end Section

variable {Author Line Digest : Type} {digest : Line → Digest} {start : List Line}

/-- The sections, newest first, and the lines that they leave of those at the start. -/
inductive Sections (digest : Line → Digest) (start : List Line) :
    List (Author × Section Line Digest) → List Line → Prop
  | nil : Sections digest start [] start
  | idle {sections : List (Author × Section Line Digest)} {lines : List Line} (author : Author)
      (hsections : Sections digest start sections lines) :
      Sections digest start ((author, .idle) :: sections) lines
  | write {sections : List (Author × Section Line Digest)} {lines : List Line} (author : Author)
      (line : Line) (hsections : Sections digest start sections lines) :
      Sections digest start ((author, .write line) :: sections) (lines ++ [line])
  | sweep {sections : List (Author × Section Line Digest)} {lines kept removed : List Line}
      (author : Author) (summary : Line) (hsections : Sections digest start sections lines)
      (hkept : kept.Sublist lines) (hparts : (kept ++ removed).Perm lines) :
      Sections digest start ((author, .sweep summary (removed.map digest)) :: sections)
        (kept ++ [summary])

/-- The lines at the start and those that sections added, oldest first. -/
def contributions (start : List Line) (sections : List (Author × Section Line Digest)) :
    List Line :=
  start ++ sections.reverse.filterMap fun entry => entry.2.added

theorem contributions_cons_none {sections : List (Author × Section Line Digest)}
    {entry : Author × Section Line Digest} (hadded : entry.2.added = none) :
    contributions start (entry :: sections) = contributions start sections := by
  simp [contributions, hadded]

theorem contributions_cons_some {sections : List (Author × Section Line Digest)}
    {entry : Author × Section Line Digest} (line : Line) (hadded : entry.2.added = some line) :
    contributions start (entry :: sections) = contributions start sections ++ [line] := by
  simp [contributions, hadded]

/-- The digests that sections recorded. -/
def records (sections : List (Author × Section Line Digest)) : List Digest :=
  sections.flatMap fun entry => entry.2.recorded

variable {sections : List (Author × Section Line Digest)} {lines : List Line}

/-- The lines stand in the order of the sections that added them. -/
theorem Sections.sublist (hsections : Sections digest start sections lines) :
    lines.Sublist (contributions start sections) := by
  induction hsections with
  | nil => simp [contributions]
  | idle author _ ih =>
      rw [contributions_cons_none rfl]
      exact ih
  | write author line _ ih =>
      rw [contributions_cons_some line rfl]
      exact ih.append (.refl _)
  | sweep author summary _ hkept _ ih =>
      rw [contributions_cons_some summary rfl]
      exact (hkept.trans ih).append (.refl _)

section Conservation

variable [BEq Line] [LawfulBEq Line] [BEq Digest] [LawfulBEq Digest]

/-- A digest counts the lines that have it, where only one line has it. -/
theorem count_map_digest {line : Line} {removed : List Line}
    (hdigest : ∀ other ∈ removed, digest other = digest line → other = line) :
    (removed.map digest).count (digest line) = removed.count line := by
  rw [List.count_eq_countP, List.countP_map, List.count_eq_countP]
  apply List.countP_congr
  intro other hother
  simp only [Function.comp_apply, beq_iff_eq]
  exact ⟨hdigest other hother, congrArg digest⟩

/-- A line was contributed as often as it is there or its digest is recorded, where no other
line that was contributed has its digest. -/
theorem Sections.conserve (hsections : Sections digest start sections lines) {line : Line}
    (hdigest : ∀ other ∈ contributions start sections, digest other = digest line →
      other = line) :
    (contributions start sections).count line =
      lines.count line + (records sections).count (digest line) := by
  induction hsections with
  | nil => simp [contributions, records]
  | idle author _ ih =>
      rw [contributions_cons_none rfl] at hdigest ⊢
      have hrest := ih hdigest
      simpa [records, Section.recorded] using hrest
  | write author written _ ih =>
      rw [contributions_cons_some written rfl] at hdigest ⊢
      have hrest := ih fun other hother => hdigest other (List.mem_append_left _ hother)
      simp only [records, List.flatMap_cons, Section.recorded, List.count_append,
        List.count_nil] at hrest ⊢
      omega
  | @sweep sections lines kept removed author summary hbefore hkept hparts ih =>
      rw [contributions_cons_some summary rfl] at hdigest ⊢
      have hearlier : ∀ other ∈ contributions start sections, digest other = digest line →
          other = line :=
        fun other hother => hdigest other (List.mem_append_left _ hother)
      have hrest := ih hearlier
      have hcount : kept.count line + removed.count line = lines.count line := by
        rw [← List.count_append, hparts.count_eq]
      have hrecorded : (removed.map digest).count (digest line) = removed.count line := by
        apply count_map_digest
        intro other hother
        exact hearlier other (hbefore.sublist.subset (hparts.subset (List.mem_append_right _ hother)))
      simp only [records, List.flatMap_cons, Section.recorded, hrecorded,
        List.count_append] at hrest ⊢
      omega

end Conservation

end OdinSentinel.Journal
