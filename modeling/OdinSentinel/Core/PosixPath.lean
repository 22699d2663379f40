import OdinSentinel.Core.JsText

/-!
# POSIX paths

`node:path` on POSIX: `normalize` and `join`, and the place that a path leads to in a tree
of directories without links.  A place is the list of its names, the last one first, so
that what lies directly inside it has one more in front.
-/

namespace OdinSentinel.PosixPath

open JsText

abbrev Segment := JsString

abbrev Place := List Segment

def slash : UInt16 := 47

def here : Segment := [46]

def parent : Segment := [46, 46]

def segments (path : JsString) : List Segment := path.splitOn slash

def isAbsolute (path : JsString) : Bool := path.head? == some slash

/-- A name that a directory can hold. -/
structure IsName (segment : Segment) : Prop where
  nonempty : segment ≠ []
  not_here : segment ≠ here
  not_parent : segment ≠ parent
  no_slash : slash ∉ segment

/-! ## Places -/

/-- One segment further. -/
def step (place : Place) (segment : Segment) : Place :=
  if segment = [] ∨ segment = here then place
  else if segment = parent then place.tail
  else segment :: place

/-- The place of a path for a process that works at `cwd`. -/
def locate (cwd : Place) (path : JsString) : Place :=
  (segments path).foldl step (if isAbsolute path then [] else cwd)

@[simp]
theorem step_nil (place : Place) : step place [] = place := by
  rw [step, if_pos (.inl rfl)]

theorem IsName.step_eq {segment : Segment} (hname : IsName segment) (place : Place) :
    step place segment = segment :: place := by
  rw [step, if_neg (not_or.mpr ⟨hname.nonempty, hname.not_here⟩), if_neg hname.not_parent]

theorem step_parent (place : Place) : step place parent = place.tail := by
  rw [step, if_neg (by decide), if_pos rfl]

/-! ## `normalize` and `join` -/

/-- A `..` takes the last kept name away; behind another one it stays where it may lead above
the start. -/
def keepParent (aboveRoot : Bool) : List Segment → List Segment
  | [] => if aboveRoot then [parent] else []
  | last :: rest =>
      if last = parent then if aboveRoot then parent :: last :: rest else last :: rest
      else rest

/-- One segment of `normalizeString` behind the kept ones, of which the last stands first. -/
def keep (aboveRoot : Bool) (kept : List Segment) (segment : Segment) : List Segment :=
  if segment = [] ∨ segment = here then kept
  else if segment = parent then keepParent aboveRoot kept
  else segment :: kept

def keptSegments (path : JsString) : List Segment :=
  (segments path).foldl (keep !isAbsolute path) []

def endsInSlash (path : JsString) : Bool := path.getLast? == some slash

def normalize (path : JsString) : JsString :=
  if path = [] then here
  else
    let body := [slash].intercalate (keptSegments path).reverse
    if body = [] then
      if isAbsolute path then [slash] else if endsInSlash path then here ++ [slash] else here
    else
      (if isAbsolute path then [slash] else []) ++ body ++
        (if endsInSlash path then [slash] else [])

def join (parts : List JsString) : JsString :=
  let given := parts.filter (· ≠ [])
  if given = [] then here else normalize ([slash].intercalate given)

/-! ## The place of a normalized path -/

/-- What is kept: names, behind parents that lead above a relative path's start. -/
inductive IsKept (aboveRoot : Bool) : List Segment → Prop
  | nil : IsKept aboveRoot []
  | name {segment : Segment} {kept : List Segment} (hname : IsName segment)
      (hkept : IsKept aboveRoot kept) : IsKept aboveRoot (segment :: kept)
  | parent {kept : List Segment} (hroot : aboveRoot = true) (hkept : IsKept aboveRoot kept)
      (hall : ∀ segment ∈ kept, segment = PosixPath.parent) :
      IsKept aboveRoot (PosixPath.parent :: kept)

variable {aboveRoot : Bool} {kept : List Segment}

theorem IsKept.keep (hkept : IsKept aboveRoot kept) {segment : Segment} (hslash : slash ∉ segment) :
    IsKept aboveRoot (PosixPath.keep aboveRoot kept segment) := by
  rw [PosixPath.keep]
  split_ifs with hskip hparent
  · exact hkept
  · cases hkept with
    | nil =>
        cases aboveRoot with
        | false => exact .nil
        | true => exact .parent rfl .nil (by simp)
    | name hname hkept =>
        rw [keepParent, if_neg hname.not_parent]
        exact hkept
    | parent hroot hkept hall =>
        rw [keepParent, if_pos rfl, if_pos hroot]
        exact .parent hroot (.parent hroot hkept hall) (by simpa using hall)
  · obtain ⟨hnonempty, hhere⟩ := not_or.mp hskip
    exact .name ⟨hnonempty, hhere, hparent, hslash⟩ hkept

/-- The place that the kept segments lead to. -/
def walked (start : Place) (kept : List Segment) : Place :=
  kept.foldr (fun segment place => step place segment) start

theorem IsKept.walked_keep (hkept : IsKept aboveRoot kept) {start : Place}
    (hstart : aboveRoot = false → start = []) (segment : Segment) :
    walked start (PosixPath.keep aboveRoot kept segment) = step (walked start kept) segment := by
  rw [PosixPath.keep, step]
  split_ifs with hskip hparent
  · rfl
  · cases hkept with
    | nil =>
        cases aboveRoot with
        | false =>
            rw [hstart rfl]
            rfl
        | true => exact step_parent start
    | name hname hkept =>
        rw [keepParent, if_neg hname.not_parent, walked, walked, List.foldr_cons, hname.step_eq, List.tail_cons]
    | parent hroot hkept hall =>
        rw [keepParent, if_pos rfl, if_pos hroot, walked, List.foldr_cons]
        exact step_parent _
  · have hname : walked start (segment :: kept) = step (walked start kept) segment := rfl
    rw [hname, step, if_neg hskip, if_neg hparent]

theorem isKept_foldl {segments : List Segment} (hslash : ∀ segment ∈ segments, slash ∉ segment)
    (hkept : IsKept aboveRoot kept) :
    IsKept aboveRoot (segments.foldl (keep aboveRoot) kept) := by
  induction segments generalizing kept with
  | nil => exact hkept
  | cons segment rest ih =>
      obtain ⟨hfirst, hrest⟩ := List.forall_mem_cons.mp hslash
      exact ih hrest (hkept.keep hfirst)

theorem walked_foldl {segments : List Segment} (hslash : ∀ segment ∈ segments, slash ∉ segment)
    (hkept : IsKept aboveRoot kept) {start : Place} (hstart : aboveRoot = false → start = []) :
    walked start (segments.foldl (keep aboveRoot) kept) =
      segments.foldl step (walked start kept) := by
  induction segments generalizing kept with
  | nil => rfl
  | cons segment rest ih =>
      obtain ⟨hfirst, hrest⟩ := List.forall_mem_cons.mp hslash
      rw [List.foldl_cons, List.foldl_cons, ih hrest (hkept.keep hfirst),
        hkept.walked_keep hstart]

/-- A kept segment is a text between slashes. -/
theorem IsKept.mem (hkept : IsKept aboveRoot kept) {segment : Segment} (hmem : segment ∈ kept) :
    segment ≠ [] ∧ slash ∉ segment := by
  induction hkept with
  | nil => cases hmem
  | name hname hkept ih =>
      rcases List.mem_cons.mp hmem with rfl | hmem
      · exact ⟨hname.nonempty, hname.no_slash⟩
      · exact ih hmem
  | parent hroot hkept hall ih =>
      rcases List.mem_cons.mp hmem with rfl | hmem
      · exact ⟨by decide, by decide⟩
      · exact ih hmem

theorem slash_not_mem {path : JsString} {segment : Segment} (hmem : segment ∈ segments path) :
    slash ∉ segment :=
  fun hslash => (Text.mem_of_mem_splitOn hmem hslash).2 rfl

theorem isKept_keptSegments (path : JsString) : IsKept (!isAbsolute path) (keptSegments path) :=
  isKept_foldl (fun _ => slash_not_mem) .nil

theorem locate_eq (cwd : Place) (path : JsString) :
    locate cwd path = walked (if isAbsolute path then [] else cwd) (keptSegments path) := by
  rw [keptSegments, walked_foldl (fun _ => slash_not_mem) .nil]
  · rfl
  · intro habsolute
    rw [if_pos (by simpa using habsolute)]

/-- The kept segments, as they are written. -/
def written (path : JsString) : JsString := [slash].intercalate (keptSegments path).reverse

theorem segments_append (front rest : JsString) :
    segments (front ++ slash :: rest) = segments front ++ segments rest :=
  List.splitOn_append_cons_self front rest

theorem walk_trailing (start : Place) (text : JsString) (trailing : Bool) :
    (segments (text ++ if trailing then [slash] else [])).foldl step start =
      (segments text).foldl step start := by
  cases trailing with
  | false => simp
  | true =>
      have hempty : segments [] = [[]] := rfl
      rw [if_pos rfl, segments_append, hempty, List.foldl_append, List.foldl_cons, step_nil,
        List.foldl_nil]

theorem intercalate_eq_nil {separator : JsString} {pieces : List JsString}
    (hpieces : ∀ piece ∈ pieces, piece ≠ []) (hnil : separator.intercalate pieces = []) :
    pieces = [] := by
  cases pieces with
  | nil => rfl
  | cons first rest =>
      have hfirst := hpieces first List.mem_cons_self
      cases rest with
      | nil => simp_all
      | cons second rest => simp_all

theorem keptSegments_pieces (path : JsString) :
    ∀ piece ∈ (keptSegments path).reverse, piece ≠ [] ∧ slash ∉ piece :=
  fun _ hpiece => (isKept_keptSegments path).mem (List.mem_reverse.mp hpiece)

/-- What is written leads where the path leads. -/
theorem walk_written (start : Place) {path : JsString} (hwritten : written path ≠ []) :
    (segments (written path)).foldl step start = walked start (keptSegments path) := by
  have hpieces := keptSegments_pieces path
  have hne : (keptSegments path).reverse ≠ [] := by
    intro hnil
    rw [written, hnil] at hwritten
    exact hwritten rfl
  rw [written, segments, List.splitOn_intercalate slash (fun _ hpiece => (hpieces _ hpiece).2) hne,
    List.foldl_reverse, walked]

theorem isAbsolute_intercalate {pieces : List Segment}
    (hpieces : ∀ piece ∈ pieces, piece ≠ [] ∧ slash ∉ piece) (hne : pieces ≠ [])
    (rest : JsString) : isAbsolute ([slash].intercalate pieces ++ rest) = false := by
  obtain ⟨first, others, rfl⟩ := List.exists_cons_of_ne_nil hne
  obtain ⟨hfirst, hslash⟩ := hpieces first List.mem_cons_self
  obtain ⟨unit, units, rfl⟩ := List.exists_cons_of_ne_nil hfirst
  have hunit : unit ≠ slash := fun hsame => hslash (hsame ▸ List.mem_cons_self)
  cases others <;> simp [isAbsolute, hunit]

theorem isAbsolute_written {path rest : JsString} (hwritten : written path ≠ []) :
    isAbsolute (written path ++ rest) = false := by
  apply isAbsolute_intercalate (keptSegments_pieces path)
  intro hnil
  rw [written, hnil] at hwritten
  exact hwritten rfl

/-- A leading slash is an empty segment in front. -/
theorem walk_slash (start : Place) (text : JsString) :
    (segments (slash :: text)).foldl step start = (segments text).foldl step start := by
  have hempty : segments [] = [[]] := rfl
  rw [← List.nil_append (slash :: text), segments_append, hempty, List.singleton_append,
    List.foldl_cons, step_nil]

/-- A normalized path leads where the path leads. -/
theorem locate_normalize (cwd : Place) (path : JsString) :
    locate cwd (normalize path) = locate cwd path := by
  rw [normalize]
  by_cases hpath : path = []
  · subst hpath
    rfl
  · rw [if_neg hpath]
    dsimp only
    rw [← written, locate_eq cwd path]
    by_cases hwritten : written path = []
    · have hkept : keptSegments path = [] := by
        simpa using intercalate_eq_nil (fun piece hpiece => (keptSegments_pieces path piece hpiece).1)
          hwritten
      rw [if_pos hwritten, hkept]
      cases isAbsolute path with
      | true => rfl
      | false => cases endsInSlash path <;> rfl
    · rw [if_neg hwritten, ← walk_written _ hwritten]
      cases isAbsolute path with
      | true =>
          change (segments (slash :: (written path ++ _))).foldl step [] = _
          rw [walk_slash, walk_trailing]
          rfl
      | false =>
          change locate cwd (written path ++ _) = _
          rw [locate, isAbsolute_written hwritten, walk_trailing]

theorem isAbsolute_append {dir : JsString} (hdir : dir ≠ []) (rest : JsString) :
    isAbsolute (dir ++ rest) = isAbsolute dir := by
  obtain ⟨unit, units, rfl⟩ := List.exists_cons_of_ne_nil hdir
  rfl

theorem locate_append {dir : JsString} (hdir : dir ≠ []) (cwd : Place) {name : Segment}
    (hname : IsName name) : locate cwd (dir ++ slash :: name) = name :: locate cwd dir := by
  have hsegment : segments name = [name] := List.splitOn_eq_singleton hname.no_slash
  rw [locate, isAbsolute_append hdir, segments_append, hsegment, List.foldl_append, List.foldl_cons,
    List.foldl_nil, hname.step_eq, ← locate]

theorem join_pair {dir : JsString} (hdir : dir ≠ []) {name : Segment} (hname : name ≠ []) :
    join [dir, name] = normalize (dir ++ slash :: name) := by
  have hgiven : [dir, name].filter (fun part => part ≠ []) = [dir, name] := by simp [hdir, hname]
  rw [join, hgiven, if_neg (List.cons_ne_nil _ _)]
  simp [List.intercalate]

theorem join_nil {name : Segment} (hname : name ≠ []) : join [[], name] = normalize name := by
  have hgiven : [[], name].filter (fun part : JsString => part ≠ []) = [name] := by simp [hname]
  rw [join, hgiven, if_neg (List.cons_ne_nil _ _)]
  simp

theorem IsName.isAbsolute {name : Segment} (hname : IsName name) :
    PosixPath.isAbsolute name = false := by
  obtain ⟨unit, units, rfl⟩ := List.exists_cons_of_ne_nil hname.nonempty
  have hunit : unit ≠ slash := fun hsame => hname.no_slash (hsame ▸ List.mem_cons_self)
  simp [PosixPath.isAbsolute, hunit]

theorem IsName.segments {name : Segment} (hname : IsName name) :
    PosixPath.segments name = [name] :=
  List.splitOn_eq_singleton hname.no_slash

theorem IsName.endsInSlash {name : Segment} (hname : IsName name) (front : JsString) :
    PosixPath.endsInSlash (front ++ name) = false := by
  have hlast := List.getLast_mem hname.nonempty
  have hne : name.getLast hname.nonempty ≠ slash := fun hsame => hname.no_slash (hsame ▸ hlast)
  rw [PosixPath.endsInSlash, List.getLast?_append_of_ne_nil _ hname.nonempty,
    List.getLast?_eq_getLast_of_ne_nil hname.nonempty]
  simp [hne]

theorem IsName.keep_eq {name : Segment} (hname : IsName name) (aboveRoot : Bool)
    (kept : List Segment) : keep aboveRoot kept name = name :: kept := by
  rw [keep, if_neg (not_or.mpr ⟨hname.nonempty, hname.not_here⟩), if_neg hname.not_parent]

theorem intercalate_concat {separator last : JsString} {pieces : List JsString}
    (hpieces : pieces ≠ []) :
    separator.intercalate (pieces ++ [last]) = separator.intercalate pieces ++ separator ++ last := by
  induction pieces with
  | nil => exact absurd rfl hpieces
  | cons first rest ih =>
      by_cases hrest : rest = []
      · subst hrest
        simp [List.intercalate]
      · have hmore : rest ++ [last] ≠ [] := by simp
        rw [List.cons_append, List.intercalate_cons_of_ne_nil hmore, ih hrest,
          List.intercalate_cons_of_ne_nil hrest]
        simp only [List.append_assoc]

/-- What is written in front of a name that is joined to a directory. -/
def frontOf (dir : JsString) : JsString :=
  (if isAbsolute dir then [slash] else []) ++
    if keptSegments dir = [] then [] else written dir ++ [slash]

theorem join_eq (dir : JsString) {name : Segment} (hname : IsName name) :
    join [dir, name] = frontOf dir ++ name := by
  have hne := hname.nonempty
  by_cases hdir : dir = []
  · have hkept : keptSegments name = [name] := by
      rw [keptSegments, hname.segments, List.foldl_cons, hname.keep_eq, List.foldl_nil]
    have hfront : frontOf [] = [] := by decide
    have hends : endsInSlash name = false := hname.endsInSlash []
    rw [hdir, join_nil hne, hfront, normalize, if_neg hne, hkept, hname.isAbsolute, hends]
    simp [hne]
  · have habsolute := isAbsolute_append hdir (slash :: name)
    have hends : endsInSlash (dir ++ slash :: name) = false := by
      rw [← List.singleton_append, ← List.append_assoc]
      exact hname.endsInSlash _
    have hkept : keptSegments (dir ++ slash :: name) = name :: keptSegments dir := by
      rw [keptSegments, segments_append, hname.segments, habsolute, List.foldl_append,
        List.foldl_cons, List.foldl_nil, hname.keep_eq, keptSegments]
    rw [join_pair hdir hne, frontOf, normalize, if_neg (by simp), hkept, habsolute, hends, written,
      List.reverse_cons]
    by_cases hkeptDir : keptSegments dir = []
    · simp [hkeptDir, hne]
    · rw [intercalate_concat (by simpa using hkeptDir), if_neg hkeptDir]
      simp

/-- A name joined to a directory lies directly inside it. -/
theorem locate_join (cwd : Place) (dir : JsString) {name : Segment} (hname : IsName name) :
    locate cwd (join [dir, name]) = name :: locate cwd dir := by
  by_cases hdir : dir = []
  · rw [hdir, join_nil hname.nonempty, locate_normalize, locate, hname.isAbsolute, hname.segments]
    exact hname.step_eq cwd
  · rw [join_pair hdir hname.nonempty, locate_normalize, locate_append hdir cwd hname]

/-- So does what is written behind such a name. -/
theorem locate_join_append (cwd : Place) (dir : JsString) {name suffix : Segment}
    (hname : IsName name) (hlonger : IsName (name ++ suffix)) :
    locate cwd (join [dir, name] ++ suffix) = (name ++ suffix) :: locate cwd dir := by
  rw [join_eq dir hname, List.append_assoc, ← join_eq dir hlonger, locate_join cwd dir hlonger]

/-! ## `relative` -/

/-- The segments from one place to another, both read from the root on: a `..` for each name
left behind, then the names ahead. -/
def descent : List Segment → List Segment → List Segment
  | first :: start, second :: target =>
      if first = second then descent start target
      else (first :: start).map (fun _ => parent) ++ second :: target
  | start, target => start.map (fun _ => parent) ++ target

def relative (start target : Place) : JsString :=
  [slash].intercalate (descent start.reverse target.reverse)

theorem foldl_parents (names : List Segment) (base : Place) :
    (names.map fun _ => parent).foldl step (names.reverse ++ base) = base := by
  induction names using List.reverseRecOn with
  | nil => rfl
  | append_singleton names name ih =>
      have hrotate : (names ++ [name]).map (fun _ => parent) =
          parent :: names.map fun _ => parent := by
        rw [List.map_append, List.map_singleton, List.map_const', ← List.replicate_succ',
          List.replicate_succ]
      rw [hrotate, List.foldl_cons, step_parent, List.reverse_append]
      exact ih

theorem foldl_names {names : List Segment} (hnames : ∀ name ∈ names, IsName name) (base : Place) :
    names.foldl step base = names.reverse ++ base := by
  induction names generalizing base with
  | nil => rfl
  | cons name names ih =>
      obtain ⟨hname, hnames⟩ := List.forall_mem_cons.mp hnames
      rw [List.foldl_cons, hname.step_eq, ih hnames, List.reverse_cons, List.append_assoc]
      rfl

theorem foldl_descent {start target : List Segment} (htarget : ∀ name ∈ target, IsName name)
    (base : Place) :
    (descent start target).foldl step (start.reverse ++ base) = target.reverse ++ base := by
  have happart : ∀ (start target : List Segment) (base : Place),
      (∀ name ∈ target, IsName name) →
      (start.map (fun _ => parent) ++ target).foldl step (start.reverse ++ base) =
        target.reverse ++ base := by
    intro start target base hnames
    rw [List.foldl_append, foldl_parents, foldl_names hnames]
  induction start generalizing target base with
  | nil => exact happart [] target base htarget
  | cons first start ih =>
      cases target with
      | nil => exact happart (first :: start) [] base htarget
      | cons second target =>
          rw [descent]
          by_cases hsame : first = second
          · subst hsame
            have hfurther := ih (List.forall_mem_cons.mp htarget).2 (first :: base)
            rw [if_pos rfl, List.reverse_cons, List.reverse_cons, List.append_assoc,
              List.append_assoc]
            exact hfurther
          · rw [if_neg hsame]
            exact happart _ _ _ htarget

theorem mem_descent {start target : List Segment} {segment : Segment}
    (hmem : segment ∈ descent start target) : segment = parent ∨ segment ∈ target := by
  induction start generalizing target with
  | nil => exact .inr hmem
  | cons first start ih =>
      have happart : ∀ target, segment ∈ (first :: start).map (fun _ => parent) ++ target →
          segment = parent ∨ segment ∈ target := by
        intro target hmem
        rcases List.mem_append.mp hmem with hmem | hmem
        · obtain ⟨-, -, rfl⟩ := List.mem_map.mp hmem
          exact .inl rfl
        · exact .inr hmem
      cases target with
      | nil => exact happart [] hmem
      | cons second target =>
          rw [descent] at hmem
          split_ifs at hmem
          · exact (ih hmem).imp_right (List.mem_cons_of_mem _)
          · exact happart _ hmem

/-- The relative path leads from the one place to the other. -/
theorem locate_relative {start target : Place} (htarget : ∀ name ∈ target, IsName name) :
    locate start (relative start target) = target := by
  have hnames : ∀ name ∈ target.reverse, IsName name :=
    fun name hmem => htarget name (List.mem_reverse.mp hmem)
  have hwalk := @foldl_descent start.reverse target.reverse hnames []
  rw [List.reverse_reverse, List.reverse_reverse, List.append_nil, List.append_nil] at hwalk
  have hpieces : ∀ segment ∈ descent start.reverse target.reverse,
      segment ≠ [] ∧ slash ∉ segment := by
    intro segment hmem
    rcases mem_descent hmem with rfl | hmem
    · decide
    · exact ⟨(hnames segment hmem).nonempty, (hnames segment hmem).no_slash⟩
  rw [locate, relative]
  generalize descent start.reverse target.reverse = pieces at hwalk hpieces
  cases pieces with
  | nil => exact hwalk
  | cons piece pieces =>
      have hsegments : segments ([slash].intercalate (piece :: pieces)) = piece :: pieces :=
        List.splitOn_intercalate slash (fun _ hpiece => (hpieces _ hpiece).2)
          (List.cons_ne_nil _ _)
      have hrelative := isAbsolute_intercalate hpieces (List.cons_ne_nil _ _) []
      rw [List.append_nil] at hrelative
      rw [hsegments, hrelative]
      exact hwalk

/-- What a path leads to from a place of names is one. -/
theorem isName_locate {cwd : Place} (hcwd : ∀ name ∈ cwd, IsName name) (path : JsString) :
    ∀ name ∈ locate cwd path, IsName name := by
  have hstart : ∀ name ∈ if isAbsolute path then [] else cwd, IsName name := by
    split_ifs
    · simp
    · exact hcwd
  have hslash : ∀ segment ∈ segments path, slash ∉ segment := fun _ => slash_not_mem
  rw [locate]
  generalize (if isAbsolute path then [] else cwd) = place at hstart
  generalize segments path = pieces at hslash
  induction pieces generalizing place with
  | nil => exact hstart
  | cons segment pieces ih =>
      obtain ⟨hsegment, hpieces⟩ := List.forall_mem_cons.mp hslash
      apply ih _ _ hpieces
      intro name hmem
      rw [step] at hmem
      split_ifs at hmem with hskip hparent
      · exact hstart name hmem
      · exact hstart name (List.mem_of_mem_tail hmem)
      · rcases List.mem_cons.mp hmem with rfl | hmem
        · exact ⟨fun hnil => hskip (.inl hnil), fun hhere => hskip (.inr hhere), hparent, hsegment⟩
        · exact hstart name hmem

end OdinSentinel.PosixPath
