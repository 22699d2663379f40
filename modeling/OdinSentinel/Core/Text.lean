import Mathlib.Data.List.DropRight
import Mathlib.Data.List.TakeWhile
import Mathlib.Data.List.Basic
import Mathlib.Data.List.Infix

/-!
# Text over an arbitrary alphabet

Trimming, splitting at a separator and substring search on lists of symbols,
whatever the symbols are: code units of a script string or characters of a
decoded one.
-/

namespace OdinSentinel.Text

variable {Symbol : Type*}

/-- Drop the symbols satisfying `blank` from both ends. -/
def trimBy (blank : Symbol → Bool) (text : List Symbol) : List Symbol :=
  ((text.dropWhile blank).reverse.dropWhile blank).reverse

theorem trimBy_eq_nil_iff (blank : Symbol → Bool) (text : List Symbol) :
    trimBy blank text = [] ↔ ∀ symbol ∈ text, blank symbol = true := by
  rw [trimBy]
  rw [List.reverse_eq_nil_iff, List.dropWhile_eq_nil_iff]
  simp only [List.mem_reverse]
  constructor
  · intro hall symbol hmem
    rw [← List.takeWhile_append_dropWhile (p := blank) (l := text)] at hmem
    rcases List.mem_append.mp hmem with htake | hdrop
    · exact List.mem_takeWhile_imp htake
    · exact hall symbol hdrop
  · intro hall symbol hmem
    exact hall symbol ((List.dropWhile_sublist blank).subset hmem)

/-- Trimming keeps a contiguous part of the text. -/
theorem trimBy_infix_self (blank : Symbol → Bool) (text : List Symbol) :
    trimBy blank text <:+: text := by
  have hback : trimBy blank text <+: text.dropWhile blank := by
    rw [trimBy]
    rw [← List.reverse_suffix, List.reverse_reverse]
    exact List.dropWhile_suffix blank
  exact hback.isInfix.trans (List.dropWhile_suffix blank).isInfix

/-- A text with a blank-free first and last symbol is trimmed already. -/
theorem trimBy_of_forall_not {blank : Symbol → Bool} {text : List Symbol}
    (htext : ∀ symbol ∈ text, blank symbol = false) : trimBy blank text = text := by
  have hdrop : ∀ other : List Symbol, (∀ symbol ∈ other, blank symbol = false) →
      other.dropWhile blank = other := by
    intro other hother
    cases other with
    | nil => rfl
    | cons head rest => simp [List.dropWhile, hother head (by simp)]
  rw [trimBy]
  rw [hdrop text htext, hdrop text.reverse (by simpa using htext), List.reverse_reverse]

/-- Trimming does not see blanks in front. -/
theorem trimBy_append_of_forall {blank : Symbol → Bool} {front : List Symbol}
    (hfront : ∀ symbol ∈ front, blank symbol = true) (text : List Symbol) :
    trimBy blank (front ++ text) = trimBy blank text := by
  have hdrop : (front ++ text).dropWhile blank = text.dropWhile blank := by
    induction front with
    | nil => rfl
    | cons head rest ih =>
        rw [List.cons_append, List.dropWhile_cons_of_pos (hfront head (by simp))]
        exact ih (fun symbol hmem => hfront symbol (List.mem_cons_of_mem _ hmem))
  rw [trimBy, hdrop, trimBy]

/-- A symbol that is no blank survives the trim. -/
theorem mem_trimBy_of_not {blank : Symbol → Bool} {symbol : Symbol} {text : List Symbol}
    (hmem : symbol ∈ text) (hsymbol : blank symbol = false) : symbol ∈ trimBy blank text := by
  have hdrop : ∀ other : List Symbol, symbol ∈ other → symbol ∈ other.dropWhile blank := by
    intro other hother
    rw [← List.takeWhile_append_dropWhile (p := blank) (l := other)] at hother
    rcases List.mem_append.mp hother with htake | hdrop
    · rw [List.mem_takeWhile_imp htake] at hsymbol
      cases hsymbol
    · exact hdrop
  rw [trimBy, List.mem_reverse]
  exact hdrop _ (List.mem_reverse.mpr (hdrop text hmem))

theorem trimBy_eq_rdropWhile (blank : Symbol → Bool) (text : List Symbol) :
    trimBy blank text = (text.dropWhile blank).rdropWhile blank := rfl

/-- A symbol that is no blank keeps what is in front of it from the trim. -/
theorem rdropWhile_append_cons {blank : Symbol → Bool} {mark : Symbol}
    (hmark : blank mark = false) (front text : List Symbol) :
    (front ++ mark :: text).rdropWhile blank = front ++ mark :: text.rdropWhile blank := by
  have hdrop : ∀ back : List Symbol,
      (back ++ mark :: front.reverse).dropWhile blank =
        back.dropWhile blank ++ mark :: front.reverse := by
    intro back
    induction back with
    | nil => simp [hmark]
    | cons head rest ih =>
        by_cases hhead : blank head = true
        · simp [hhead, ih]
        · simp [hhead]
  simp [List.rdropWhile, hdrop]

/-- Trimming the end only leaves blanks in front of the trimmed text. -/
theorem exists_rdropWhile_eq (blank : Symbol → Bool) (text : List Symbol) :
    ∃ front, (∀ symbol ∈ front, blank symbol = true) ∧ (∀ symbol ∈ front, symbol ∈ text) ∧
      text.rdropWhile blank = front ++ trimBy blank text := by
  have hsplit := List.takeWhile_append_dropWhile (p := blank) (l := text)
  cases hdrop : text.dropWhile blank with
  | nil =>
      have hall := List.dropWhile_eq_nil_iff.mp hdrop
      refine ⟨[], by simp, by simp, ?_⟩
      rw [(trimBy_eq_nil_iff blank text).mpr hall, List.rdropWhile, List.reverse_eq_iff]
      exact List.dropWhile_eq_nil_iff.mpr (by simpa using hall)
  | cons head rest =>
      have hhead : blank head = false := by
        simpa [hdrop] using List.head_dropWhile_not blank (l := text) (by simp [hdrop])
      refine ⟨text.takeWhile blank, fun symbol hmem => List.mem_takeWhile_imp hmem,
        fun symbol hmem => (List.takeWhile_sublist blank).subset hmem, ?_⟩
      have htrim : trimBy blank text = head :: rest.rdropWhile blank := by
        rw [trimBy_eq_rdropWhile, hdrop]
        exact rdropWhile_append_cons hhead [] rest
      calc text.rdropWhile blank
          = (text.takeWhile blank ++ head :: rest).rdropWhile blank := by rw [← hdrop, hsplit]
        _ = text.takeWhile blank ++ head :: rest.rdropWhile blank :=
            rdropWhile_append_cons hhead _ _
        _ = text.takeWhile blank ++ trimBy blank text := by rw [htrim]

/-- A symbol that is no blank splits the trim. -/
theorem trimBy_append_cons {blank : Symbol → Bool} {mark : Symbol}
    (hmark : blank mark = false) (front text : List Symbol) :
    trimBy blank (front ++ mark :: text) =
      front.dropWhile blank ++ mark :: text.rdropWhile blank := by
  have hdrop : (front ++ mark :: text).dropWhile blank =
      front.dropWhile blank ++ mark :: text := by
    induction front with
    | nil => simp [hmark]
    | cons head rest ih =>
        by_cases hhead : blank head = true
        · simp [hhead, ih]
        · simp [hhead]
  rw [trimBy_eq_rdropWhile, hdrop, rdropWhile_append_cons hmark]

/-- A text is trimmed exactly when no blank stands at either end. -/
theorem trimBy_eq_self_iff {blank : Symbol → Bool} {text : List Symbol} :
    trimBy blank text = text ↔
      (∀ symbol ∈ text.head?, blank symbol = false) ∧
        ∀ symbol ∈ text.getLast?, blank symbol = false := by
  have hfront : text.dropWhile blank = text ↔ ∀ symbol ∈ text.head?, blank symbol = false := by
    cases text with
    | nil => simp
    | cons symbol rest => simp [List.dropWhile_eq_self_iff]
  have hback : text.rdropWhile blank = text ↔
      ∀ symbol ∈ text.getLast?, blank symbol = false := by
    rw [List.rdropWhile_eq_self_iff]
    constructor
    · intro hlast symbol hsymbol
      obtain ⟨hne, rfl⟩ := List.mem_getLast?_eq_getLast hsymbol
      simpa using hlast hne
    · intro hlast hne
      simpa using hlast _ (List.getLast?_eq_some_getLast hne)
  rw [← hfront, ← hback, trimBy_eq_rdropWhile]
  constructor
  · intro htrim
    have hkept : text.dropWhile blank = text := by
      apply (List.dropWhile_suffix blank).eq_of_length_le
      calc text.length = ((text.dropWhile blank).rdropWhile blank).length := by rw [htrim]
        _ ≤ (text.dropWhile blank).length := (List.rdropWhile_prefix blank _).length_le
    rw [hkept] at htrim
    exact ⟨hkept, htrim⟩
  · intro hkept
    rw [hkept.1, hkept.2]

/-- Trimming twice is trimming once. -/
theorem trimBy_trimBy (blank : Symbol → Bool) (text : List Symbol) :
    trimBy blank (trimBy blank text) = trimBy blank text := by
  have hback : (trimBy blank text).rdropWhile blank = trimBy blank text :=
    List.rdropWhile_idempotent blank _
  have hfront : (trimBy blank text).dropWhile blank = trimBy blank text := by
    rw [List.dropWhile_eq_self_iff]
    intro hlength
    have hopens : trimBy blank text <+: text.dropWhile blank := List.rdropWhile_prefix blank _
    rw [hopens.getElem hlength]
    exact List.dropWhile_get_zero_not blank text (lt_of_lt_of_le hlength hopens.length_le)
  rw [trimBy_eq_rdropWhile blank (trimBy blank text), hfront, hback]

/-- Replace every maximal run of symbols satisfying `member` by `mark`. -/
def replaceRuns (member : Symbol → Bool) (mark : Symbol) : List Symbol → List Symbol
  | [] => []
  | symbol :: rest =>
      if member symbol then
        if (rest.head?.map member).getD false then replaceRuns member mark rest
        else mark :: replaceRuns member mark rest
      else symbol :: replaceRuns member mark rest

/-- A text that has no run is left alone. -/
theorem replaceRuns_of_forall_not {member : Symbol → Bool} {mark : Symbol}
    {text : List Symbol} (htext : ∀ symbol ∈ text, member symbol = false) :
    replaceRuns member mark text = text := by
  induction text with
  | nil => rfl
  | cons head rest ih =>
      rw [replaceRuns, htext head (by simp)]
      simp [ih (fun symbol hmem => htext symbol (List.mem_cons_of_mem _ hmem))]

/-- What replacing leaves is the mark or a symbol of the text outside the runs. -/
theorem mem_replaceRuns {member : Symbol → Bool} {mark symbol : Symbol} {text : List Symbol}
    (hmem : symbol ∈ replaceRuns member mark text) :
    symbol = mark ∨ (symbol ∈ text ∧ member symbol = false) := by
  induction text with
  | nil => cases hmem
  | cons head rest ih =>
      rw [replaceRuns] at hmem
      split at hmem
      · split at hmem
        · exact (ih hmem).imp_right (fun hrest => ⟨List.mem_cons_of_mem _ hrest.1, hrest.2⟩)
        · rcases List.mem_cons.mp hmem with rfl | hmem
          · exact .inl rfl
          · exact (ih hmem).imp_right (fun hrest => ⟨List.mem_cons_of_mem _ hrest.1, hrest.2⟩)
      · rename_i hhead
        rcases List.mem_cons.mp hmem with rfl | hmem
        · exact .inr ⟨by simp, by simpa using hhead⟩
        · exact (ih hmem).imp_right (fun hrest => ⟨List.mem_cons_of_mem _ hrest.1, hrest.2⟩)

theorem head?_replaceRuns {member : Symbol → Bool} {mark : Symbol} {text : List Symbol}
    (hhead : (text.head?.map member).getD false = false) :
    (replaceRuns member mark text).head? = text.head? := by
  cases text with
  | nil => rfl
  | cons head rest =>
      have hsymbol : member head = false := by simpa using hhead
      simp [replaceRuns, hsymbol]

/-- Replacing twice is replacing once, when the mark counts as a member. -/
theorem replaceRuns_replaceRuns {member : Symbol → Bool} {mark : Symbol}
    (hmark : member mark = true) (text : List Symbol) :
    replaceRuns member mark (replaceRuns member mark text) = replaceRuns member mark text := by
  induction text with
  | nil => rfl
  | cons head rest ih =>
      by_cases hhead : member head = true
      · by_cases hnext : (rest.head?.map member).getD false = true
        · simpa [replaceRuns, hhead, hnext] using ih
        · have hout : ((replaceRuns member mark rest).head?.map member).getD false = false := by
            rw [head?_replaceRuns (by simpa using hnext)]
            simpa using hnext
          have hrest : replaceRuns member mark (head :: rest) =
              mark :: replaceRuns member mark rest := by simp [replaceRuns, hhead, hnext]
          rw [hrest, replaceRuns, hmark, if_pos rfl, hout, ih]
          simp
      · have hrest : replaceRuns member mark (head :: rest) =
            head :: replaceRuns member mark rest := by simp [replaceRuns, hhead]
        rw [hrest, replaceRuns, ih]
        simp [hhead]

/-- A symbol outside the runs splits the replacing. -/
theorem replaceRuns_append_cons {member : Symbol → Bool} {mark symbol : Symbol}
    (hsymbol : member symbol = false) (front text : List Symbol) :
    replaceRuns member mark (front ++ symbol :: text) =
      replaceRuns member mark front ++ symbol :: replaceRuns member mark text := by
  induction front with
  | nil => simp [replaceRuns, hsymbol]
  | cons head rest ih =>
      have hnext : ((rest ++ symbol :: text).head?.map member).getD false =
          (rest.head?.map member).getD false := by
        cases rest with
        | nil => simpa using hsymbol
        | cons => rfl
      rw [List.cons_append, replaceRuns, hnext, ih, replaceRuns]
      split
      · split <;> simp
      · simp

/-- What comes first of a kind, and the rest from the first other symbol on. -/
theorem exists_span (accept : Symbol → Prop) (text : List Symbol) :
    ∃ front behind, text = front ++ behind ∧ (∀ symbol ∈ front, accept symbol) ∧
      ∀ symbol ∈ behind.head?, ¬accept symbol := by
  induction text with
  | nil => exact ⟨[], [], rfl, by simp, by simp⟩
  | cons symbol text ih =>
      by_cases hsymbol : accept symbol
      · obtain ⟨front, behind, rfl, hfront, hbehind⟩ := ih
        exact ⟨symbol :: front, behind, rfl, List.forall_mem_cons.mpr ⟨hsymbol, hfront⟩, hbehind⟩
      · refine ⟨[], symbol :: text, rfl, by simp, fun other hother => ?_⟩
        rw [← Option.some.inj hother]
        exact hsymbol

variable [DecidableEq Symbol]

/-- Names joined by joints: nothing but both, and a name at either end. -/
def shaped (name joint : Symbol → Bool) (text : List Symbol) : Bool :=
  text.head?.any name && text.getLast?.any name &&
    text.all (fun symbol => name symbol || joint symbol)

/-- A non-empty run of names. -/
def isRun (name : Symbol → Bool) (piece : List Symbol) : Bool :=
  !piece.isEmpty && piece.all name

variable {name joint : Symbol → Bool} {mark : Symbol}

/-- The tail of a joined text: the rest of a run, then whole runs. -/
def runsAfter (name : Symbol → Bool) : List (List Symbol) → Bool
  | [] => false
  | piece :: pieces => piece.all name && pieces.all (isRun name)

theorem splitOn_cons_of_ne {symbol : Symbol} (hsymbol : symbol ≠ mark) (text : List Symbol) :
    ∃ piece pieces, text.splitOn mark = piece :: pieces ∧
      (symbol :: text).splitOn mark = (symbol :: piece) :: pieces := by
  cases hsplit : text.splitOn mark with
  | nil => exact absurd hsplit (List.splitOn_ne_nil mark text)
  | cons piece pieces =>
      refine ⟨piece, pieces, rfl, ?_⟩
      rw [List.splitOn_cons_eq_if_modifyHead, if_neg (by simpa using hsymbol), hsplit,
        List.modifyHead_cons]

/-- Splitting a text whose joints were replaced by the mark gives runs of names
exactly when the text is shaped. -/
theorem splitOn_replaceRuns (hmark : joint mark = true)
    (hdisjoint : ∀ symbol, name symbol = true → joint symbol = false) (text : List Symbol) :
    ((replaceRuns joint mark text).splitOn mark).all (isRun name) = shaped name joint text ∧
    runsAfter name ((replaceRuns joint mark text).splitOn mark) =
      (text.all (fun symbol => name symbol || joint symbol) &&
        (text.isEmpty || text.getLast?.any name)) := by
  induction text with
  | nil => simp [replaceRuns, shaped, isRun, runsAfter]
  | cons head rest ih =>
      obtain ⟨ihruns, ihafter⟩ := ih
      have hlast : rest ≠ [] → (head :: rest).getLast? = rest.getLast? := by
        intro hrest
        rw [List.getLast?_cons, List.getLast?_eq_some_getLast hrest]
        rfl
      by_cases hjoint : joint head = true
      · have hname : name head = false := by
          by_contra hname
          rw [hdisjoint head (by simpa using hname)] at hjoint
          cases hjoint
        by_cases hnext : (rest.head?.map joint).getD false = true
        · have hreplace : replaceRuns joint mark (head :: rest) = replaceRuns joint mark rest := by
            simp [replaceRuns, hjoint, hnext]
          have hrest : rest ≠ [] := by
            rintro rfl
            simp at hnext
          have hhead : rest.head?.any name = false := by
            cases rest with
            | nil => rfl
            | cons next _ =>
                by_contra hany
                have hboth := hdisjoint next (by simpa using hany)
                simp [hboth] at hnext
          rw [hreplace]
          refine ⟨?_, ?_⟩
          · rw [ihruns, shaped, shaped, hhead]
            simp [hname]
          · rw [ihafter, hlast hrest]
            simp [hname, hjoint, List.isEmpty_eq_false_iff.mpr hrest]
        · have hreplace : replaceRuns joint mark (head :: rest) =
              mark :: replaceRuns joint mark rest := by
            simp [replaceRuns, hjoint, hnext]
          rw [hreplace, List.splitOn_cons_eq_if_modifyHead, if_pos (by simp)]
          refine ⟨by simp [isRun, shaped, hname], ?_⟩
          rw [runsAfter, ihruns, shaped]
          cases rest with
          | nil => simp [hname]
          | cons next others =>
              have hnot : joint next = false := by simpa using hnext
              rw [hlast (by simp)]
              cases hcase : name next <;> simp [hname, hjoint, hnot, hcase, Bool.and_comm]
      · have hne : head ≠ mark := by
          rintro rfl
          exact hjoint hmark
        have hreplace : replaceRuns joint mark (head :: rest) =
            head :: replaceRuns joint mark rest := by simp [replaceRuns, hjoint]
        obtain ⟨piece, pieces, hsplit, hcons⟩ :=
          splitOn_cons_of_ne hne (replaceRuns joint mark rest)
        rw [hreplace, hcons]
        rw [hsplit] at ihafter
        have hafter : runsAfter name ((head :: piece) :: pieces) =
            (name head && runsAfter name (piece :: pieces)) := by
          simp [runsAfter, Bool.and_assoc]
        have hruns : ((head :: piece) :: pieces).all (isRun name) =
            runsAfter name ((head :: piece) :: pieces) := by simp [runsAfter, isRun]
        have hjoint' : joint head = false := by simpa using hjoint
        rw [hruns, hafter, ihafter]
        cases rest with
        | nil => cases hname : name head <;> simp [shaped, hname, hjoint']
        | cons next others =>
            rw [shaped, hlast (by simp)]
            cases hname : name head <;> simp [hname, hjoint', Bool.and_comm]

/-- A symbol other than the separator stands in one of the pieces. -/
theorem exists_mem_splitOn {separator symbol : Symbol} {text : List Symbol}
    (hmem : symbol ∈ text) (hne : symbol ≠ separator) :
    ∃ piece ∈ text.splitOn separator, symbol ∈ piece := by
  induction text with
  | nil => cases hmem
  | cons head rest ih =>
      by_cases hhead : head = separator
      · have hrest : symbol ∈ rest := by
          rcases List.mem_cons.mp hmem with rfl | hmem
          · exact absurd hhead hne
          · exact hmem
        obtain ⟨piece, hpiece, hsymbol⟩ := ih hrest
        refine ⟨piece, ?_, hsymbol⟩
        rw [List.splitOn_cons_eq_if_modifyHead, if_pos (by simpa using hhead)]
        exact List.mem_cons_of_mem _ hpiece
      · obtain ⟨first, pieces, hsplit, hcons⟩ := splitOn_cons_of_ne hhead rest
        rw [hcons]
        rcases List.mem_cons.mp hmem with rfl | hmem
        · exact ⟨symbol :: first, by simp, by simp⟩
        · obtain ⟨piece, hpiece, hsymbol⟩ := ih hmem
          rw [hsplit] at hpiece
          rcases List.mem_cons.mp hpiece with rfl | hpiece
          · exact ⟨head :: piece, by simp, List.mem_cons_of_mem _ hsymbol⟩
          · exact ⟨piece, List.mem_cons_of_mem _ hpiece, hsymbol⟩

/-- At most two trimmed pieces between separators, each of them shaped. -/
def pathShaped (separator : Symbol) (blank name joint : Symbol → Bool)
    (text : List Symbol) : Bool :=
  let pieces := text.splitOn separator
  decide (pieces.length ≤ 2) && pieces.all (fun piece => shaped name joint (trimBy blank piece))

theorem pathShaped_of_mem_not {separator symbol : Symbol} {blank name joint : Symbol → Bool}
    {text : List Symbol} (hmem : symbol ∈ text) (hne : symbol ≠ separator)
    (hblank : blank symbol = false) (hname : name symbol = false) (hjoint : joint symbol = false) :
    pathShaped separator blank name joint text = false := by
  obtain ⟨piece, hpiece, hsymbol⟩ := exists_mem_splitOn hmem hne
  have hnot : shaped name joint (trimBy blank piece) = false := by
    have hall : (trimBy blank piece).all (fun symbol => name symbol || joint symbol) = false :=
      List.all_eq_false.mpr ⟨symbol, mem_trimBy_of_not hsymbol hblank, by simp [hname, hjoint]⟩
    rw [shaped, hall, Bool.and_false]
  have hpieces : (text.splitOn separator).all
      (fun piece => shaped name joint (trimBy blank piece)) = false :=
    List.all_eq_false.mpr ⟨piece, hpiece, by simp [hnot]⟩
  rw [pathShaped, hpieces, Bool.and_false]

/-- A symbol of a piece is a symbol of the text other than the separator. -/
theorem mem_of_mem_splitOn {separator symbol : Symbol} {text piece : List Symbol}
    (hpiece : piece ∈ text.splitOn separator) (hsymbol : symbol ∈ piece) :
    symbol ∈ text ∧ symbol ≠ separator := by
  induction text generalizing piece with
  | nil =>
      rw [List.splitOn_nil, List.mem_singleton] at hpiece
      rw [hpiece] at hsymbol
      cases hsymbol
  | cons head rest ih =>
      by_cases hhead : head = separator
      · rw [List.splitOn_cons_eq_if_modifyHead, if_pos (by simpa using hhead)] at hpiece
        rcases List.mem_cons.mp hpiece with rfl | hpiece
        · cases hsymbol
        · exact (ih hpiece hsymbol).imp_left (List.mem_cons_of_mem _)
      · obtain ⟨first, pieces, hsplit, hcons⟩ := splitOn_cons_of_ne hhead rest
        rw [hcons] at hpiece
        rcases List.mem_cons.mp hpiece with rfl | hpiece
        · rcases List.mem_cons.mp hsymbol with rfl | hsymbol
          · exact ⟨by simp, hhead⟩
          · exact (ih (by simp [hsplit]) hsymbol).imp_left (List.mem_cons_of_mem _)
        · refine (ih ?_ hsymbol).imp_left (List.mem_cons_of_mem _)
          rw [hsplit]
          exact List.mem_cons_of_mem _ hpiece

/-! ## Replacing symbols by texts -/

section Expand

variable {Symbol Target : Type*} {expand : Symbol → List Target}

/-- `expand` turns blanks into blanks and everything else into a text without them. -/
def RespectsBlanks (blank : Symbol → Bool) (blank' : Target → Bool)
    (expand : Symbol → List Target) (text : List Symbol) : Prop :=
  ∀ symbol ∈ text, expand symbol ≠ [] ∧ ∀ target ∈ expand symbol, blank' target = blank symbol

theorem dropWhile_flatMap {blank : Symbol → Bool} {blank' : Target → Bool}
    {text : List Symbol} (hrespects : RespectsBlanks blank blank' expand text) :
    (text.flatMap expand).dropWhile blank' = (text.dropWhile blank).flatMap expand := by
  induction text with
  | nil => rfl
  | cons head rest ih =>
      obtain ⟨hne, htargets⟩ := hrespects head (by simp)
      have ih := ih (fun symbol hmem => hrespects symbol (List.mem_cons_of_mem _ hmem))
      by_cases hhead : blank head = true
      · have hall : ∀ target ∈ expand head, blank' target = true := by
          intro target htarget
          rw [htargets target htarget, hhead]
        rw [List.flatMap_cons, List.dropWhile_cons_of_pos hhead, List.dropWhile_append,
          List.dropWhile_eq_nil_iff.mpr hall]
        simpa using ih
      · obtain ⟨first, others, hexpand⟩ := List.exists_cons_of_ne_nil hne
        have hfirst : blank' first = false := by
          rw [htargets first (by simp [hexpand])]
          simpa using hhead
        rw [List.dropWhile_cons_of_neg hhead, List.flatMap_cons, hexpand, List.cons_append,
          List.dropWhile_cons_of_neg (by simp [hfirst])]

theorem trimBy_flatMap {blank : Symbol → Bool} {blank' : Target → Bool}
    {text : List Symbol} (hrespects : RespectsBlanks blank blank' expand text) :
    trimBy blank' (text.flatMap expand) = (trimBy blank text).flatMap expand := by
  have hback : RespectsBlanks blank blank' (fun symbol => (expand symbol).reverse)
      (text.dropWhile blank).reverse := by
    intro symbol hmem
    obtain ⟨hne, htargets⟩ := hrespects symbol
      ((List.dropWhile_sublist blank).subset (List.mem_reverse.mp hmem))
    exact ⟨by simpa using hne, fun target hmem => htargets target (List.mem_reverse.mp hmem)⟩
  rw [trimBy, dropWhile_flatMap hrespects, List.reverse_flatMap]
  have hreverse := dropWhile_flatMap hback
  simp only [Function.comp_def]
  rw [hreverse, List.reverse_flatMap]
  simp [trimBy, Function.comp_def]

/-- `expand` turns names into names and joints into joints that are no names. -/
def RespectsShape (name joint : Symbol → Bool) (name' joint' : Target → Bool)
    (expand : Symbol → List Target) (text : List Symbol) : Prop :=
  ∀ symbol ∈ text, expand symbol ≠ [] ∧
    ∀ target ∈ expand symbol, name' target = name symbol ∧
      (name' target || joint' target) = (name symbol || joint symbol)

theorem head?_flatMap_any {name : Symbol → Bool} {name' : Target → Bool} {text : List Symbol}
    (hrespects : ∀ symbol ∈ text, expand symbol ≠ [] ∧
      ∀ target ∈ expand symbol, name' target = name symbol) :
    (text.flatMap expand).head?.any name' = text.head?.any name := by
  cases text with
  | nil => rfl
  | cons head rest =>
      obtain ⟨hne, htargets⟩ := hrespects head (by simp)
      obtain ⟨first, others, hexpand⟩ := List.exists_cons_of_ne_nil hne
      simpa [hexpand] using htargets first (by simp [hexpand])

theorem shaped_flatMap {name joint : Symbol → Bool} {name' joint' : Target → Bool}
    {text : List Symbol} (hrespects : RespectsShape name joint name' joint' expand text) :
    shaped name' joint' (text.flatMap expand) = shaped name joint text := by
  have hnames : ∀ symbol ∈ text, expand symbol ≠ [] ∧
      ∀ target ∈ expand symbol, name' target = name symbol :=
    fun symbol hmem => ⟨(hrespects symbol hmem).1,
      fun target htarget => ((hrespects symbol hmem).2 target htarget).1⟩
  have hlast : (text.flatMap expand).getLast?.any name' = text.getLast?.any name := by
    have hback : ∀ symbol ∈ text.reverse, (expand symbol).reverse ≠ [] ∧
        ∀ target ∈ (expand symbol).reverse, name' target = name symbol :=
      fun symbol hmem => ⟨by simpa using (hnames symbol (List.mem_reverse.mp hmem)).1,
        fun target htarget =>
          (hnames symbol (List.mem_reverse.mp hmem)).2 target (List.mem_reverse.mp htarget)⟩
    have hhead := head?_flatMap_any hback
    rw [List.head?_reverse] at hhead
    rw [← hhead, ← List.head?_reverse, List.reverse_flatMap]
    rfl
  have hall : (text.flatMap expand).all (fun target => name' target || joint' target) =
      text.all (fun symbol => name symbol || joint symbol) := by
    rw [Bool.eq_iff_iff, List.all_eq_true, List.all_eq_true]
    constructor
    · intro hall symbol hmem
      obtain ⟨hne, htargets⟩ := hrespects symbol hmem
      obtain ⟨first, others, hexpand⟩ := List.exists_cons_of_ne_nil hne
      have hfirst : first ∈ expand symbol := by simp [hexpand]
      rw [← (htargets first hfirst).2]
      exact hall first (List.mem_flatMap.mpr ⟨symbol, hmem, hfirst⟩)
    · intro hall target htarget
      obtain ⟨symbol, hmem, hexpand⟩ := List.mem_flatMap.mp htarget
      rw [((hrespects symbol hmem).2 target hexpand).2]
      exact hall symbol hmem
  rw [shaped, shaped, head?_flatMap_any hnames, hlast, hall]

end Expand
section FlatMap

variable {Target : Type*} [DecidableEq Target] {expand : Symbol → List Target}

theorem splitOn_flatMap {separator : Symbol} {mark : Target} {text : List Symbol}
    (hseparator : expand separator = [mark])
    (hother : ∀ symbol ∈ text, symbol ≠ separator → mark ∉ expand symbol) :
    (text.flatMap expand).splitOn mark =
      (text.splitOn separator).map (fun piece => piece.flatMap expand) := by
  induction text with
  | nil => rfl
  | cons head rest ih =>
      have ih := ih (fun symbol hmem => hother symbol (List.mem_cons_of_mem _ hmem))
      by_cases hhead : head = separator
      · subst hhead
        rw [List.flatMap_cons, hseparator, List.singleton_append,
          List.splitOn_cons_eq_if_modifyHead, List.splitOn_cons_eq_if_modifyHead]
        simp [ih]
      · obtain ⟨first, pieces, hsplit, hcons⟩ := splitOn_cons_of_ne hhead rest
        rw [hcons, List.flatMap_cons, List.map_cons, List.flatMap_cons]
        rw [hsplit, List.map_cons] at ih
        have hnot := hother head (by simp) hhead
        revert hnot
        generalize expand head = front
        intro hnot
        induction front with
        | nil => simpa using ih
        | cons symbol front ihfront =>
            have hsymbol : symbol ≠ mark := fun heq => hnot (by simp [heq])
            obtain ⟨piece, others, hback, hboth⟩ :=
              splitOn_cons_of_ne hsymbol (front ++ rest.flatMap expand)
            have hrest := ihfront (fun hmem => hnot (List.mem_cons_of_mem _ hmem))
            rw [List.cons_append, hboth]
            rw [hback] at hrest
            obtain ⟨rfl, rfl⟩ := List.cons.inj hrest
            rfl

/-- Replacing symbols by texts of their own sort keeps the shape of a path. -/
theorem pathShaped_flatMap {separator : Symbol} {mark : Target}
    {blank name joint : Symbol → Bool} {blank' name' joint' : Target → Bool}
    {text : List Symbol} (hseparator : expand separator = [mark])
    (hother : ∀ symbol ∈ text, symbol ≠ separator → mark ∉ expand symbol ∧
      expand symbol ≠ [] ∧ ∀ target ∈ expand symbol, blank' target = blank symbol ∧
        name' target = name symbol ∧
        (name' target || joint' target) = (name symbol || joint symbol)) :
    pathShaped mark blank' name' joint' (text.flatMap expand) =
      pathShaped separator blank name joint text := by
  have hpieces : ∀ piece ∈ text.splitOn separator,
      shaped name' joint' (trimBy blank' (piece.flatMap expand)) =
        shaped name joint (trimBy blank piece) := by
    intro piece hpiece
    have hmem : ∀ symbol ∈ piece, symbol ∈ text ∧ symbol ≠ separator :=
      fun symbol hsymbol => mem_of_mem_splitOn hpiece hsymbol
    have hblanks : RespectsBlanks blank blank' expand piece := by
      intro symbol hsymbol
      obtain ⟨htext, hne⟩ := hmem symbol hsymbol
      obtain ⟨-, hnil, htargets⟩ := hother symbol htext hne
      exact ⟨hnil, fun target htarget => (htargets target htarget).1⟩
    rw [trimBy_flatMap hblanks]
    refine shaped_flatMap (fun symbol hsymbol => ?_)
    obtain ⟨htext, hne⟩ := hmem symbol ((trimBy_infix_self blank piece).subset hsymbol)
    obtain ⟨-, hnil, htargets⟩ := hother symbol htext hne
    exact ⟨hnil, fun target htarget => (htargets target htarget).2⟩
  have hsplit := splitOn_flatMap hseparator (fun symbol hmem hne => (hother symbol hmem hne).1)
  rw [pathShaped, pathShaped, hsplit, List.length_map, List.all_map]
  congr 1
  rw [Bool.eq_iff_iff, List.all_eq_true, List.all_eq_true]
  constructor
  · intro hall piece hpiece
    rw [← hpieces piece hpiece]
    exact hall piece hpiece
  · intro hall piece hpiece
    rw [Function.comp_apply, hpieces piece hpiece]
    exact hall piece hpiece

end FlatMap

/-- `part` occurs in `text`. -/
def contains (text part : List Symbol) : Bool := decide (part <:+: text)

theorem contains_iff (text part : List Symbol) :
    contains text part = true ↔ part <:+: text := by
  simp [contains]

omit [DecidableEq Symbol] in
theorem intercalate_append (mark : Symbol) {front back : List (List Symbol)} (hfront : front ≠ [])
    (hback : back ≠ []) :
    [mark].intercalate (front ++ back) = [mark].intercalate front ++ mark :: [mark].intercalate back := by
  induction front with
  | nil => exact absurd rfl hfront
  | cons piece front ih =>
      by_cases hlast : front = []
      · rw [hlast, List.singleton_append, List.intercalate_cons_of_ne_nil hback,
          List.intercalate_singleton, List.append_assoc, List.singleton_append]
      · have hrest : front ++ back ≠ [] := List.append_ne_nil_of_left_ne_nil hlast back
        rw [List.cons_append, List.intercalate_cons_of_ne_nil hrest, ih hlast,
          List.intercalate_cons_of_ne_nil hlast, List.append_assoc, List.append_assoc,
          List.append_assoc]

/-- The pieces of one text open those of another exactly where the texts are the same, or the
other goes on behind a mark. -/
theorem splitOn_prefix_iff (mark : Symbol) (text other : List Symbol) :
    text.splitOn mark <+: other.splitOn mark ↔ other = text ∨ text ++ [mark] <+: other := by
  constructor
  · rintro ⟨back, hback⟩
    have hother : [mark].intercalate (other.splitOn mark) = other := List.intercalate_splitOn mark
    rw [← hback] at hother
    by_cases hnone : back = []
    · rw [hnone, List.append_nil, List.intercalate_splitOn] at hother
      exact .inl hother.symm
    · rw [intercalate_append mark (List.splitOn_ne_nil mark text) hnone,
        List.intercalate_splitOn] at hother
      exact .inr ⟨[mark].intercalate back, by rw [List.append_assoc]; exact hother⟩
  · rintro (rfl | ⟨rest, rfl⟩)
    · exact List.prefix_rfl
    · rw [List.append_assoc, List.singleton_append, List.splitOn_append_cons_self]
      exact List.prefix_append _ _

end OdinSentinel.Text
