import OdinSentinel.Say.Paths

/-!
# The reset instant of a cap

The cap that is reported is the one of the last block with a marker, its reset instant
is the first one that the screen shows.
-/

namespace OdinSentinel.Say

open RustText

/-! ## First and last occurrences -/

/-- A search gives what stands behind the leftmost occurrence. -/
theorem behind_eq_some_iff {part : RustString} (hpart : part ≠ []) (text rest : RustString) :
    behind part text = some rest ↔
      ∃ front, text = front ++ part ++ rest ∧
        ∀ earlier other, text = earlier ++ part ++ other → front.length ≤ earlier.length := by
  induction text with
  | nil => simp [behind, hpart]
  | cons char tail ih =>
      rw [behind]
      split_ifs with hstarts
      · obtain ⟨other, hother⟩ := List.isPrefixOf_iff_prefix.mp hstarts
        rw [← hother, List.drop_left, Option.some.injEq]
        constructor
        · rintro rfl
          exact ⟨[], rfl, fun _ _ _ => Nat.zero_le _⟩
        · rintro ⟨front, hsplit, hleast⟩
          have hfront : front = [] := List.eq_nil_of_length_eq_zero (Nat.le_zero.mp (hleast [] other rfl))
          rw [hfront, List.nil_append] at hsplit
          exact List.append_cancel_left hsplit
      · rw [ih]
        constructor
        · rintro ⟨front, hsplit, hleast⟩
          refine ⟨char :: front, by simp [hsplit], fun earlier other hother => ?_⟩
          cases earlier with
          | nil => exact absurd (List.isPrefixOf_iff_prefix.mpr ⟨other, hother.symm⟩) hstarts
          | cons first earlier =>
              rw [List.cons_append, List.cons_append, List.cons.injEq] at hother
              exact Nat.succ_le_succ (hleast earlier other hother.2)
        · rintro ⟨front, hsplit, hleast⟩
          cases front with
          | nil => exact absurd (List.isPrefixOf_iff_prefix.mpr ⟨rest, hsplit.symm⟩) hstarts
          | cons first front =>
              rw [List.cons_append, List.cons_append, List.cons.injEq] at hsplit
              refine ⟨front, hsplit.2, fun earlier other hother => ?_⟩
              have hlater := hleast (char :: earlier) other (by simp [hother])
              exact Nat.le_of_succ_le_succ hlater

/-- A fold that keeps the latest hit ends with the hit of the last item that has one. -/
theorem foldl_latest {Item Hit : Type} (hitOf : Item → Option Hit)
    {step : Option Hit → Item → Option Hit} (hstep : ∀ kept item, step kept item = (hitOf item).or kept)
    (all : List Item) (kept : Option Hit) :
    all.foldl step kept =
      (((all.filter fun item => (hitOf item).isSome).getLast?).bind hitOf).or kept := by
  induction all generalizing kept with
  | nil => rfl
  | cons item rest ih =>
      rw [List.foldl_cons, ih, hstep]
      cases hhit : hitOf item with
      | none => simp [hhit]
      | some hit =>
          rw [List.filter_cons_of_pos (by simp [hhit]), List.getLast?_cons, Option.bind_some]
          cases hlast : (rest.filter fun item => (hitOf item).isSome).getLast? with
          | none => simp [hhit]
          | some last =>
              have hsome : (hitOf last).isSome = true :=
                (List.mem_filter.mp (List.mem_of_getLast? hlast)).2
              obtain ⟨later, hlater⟩ := Option.isSome_iff_exists.mp hsome
              simp [hlater]

/-! ## The reported cap -/

/-- The blocks of a screen that carry a marker. -/
def capBlocks (rules : PaneRules) (screen : RustString) : List (Nat × RustString) :=
  (blocks (lines screen)).filter fun block => (capMarkerOf rules block.2).isSome

/-- A line of turn output stands behind a position. -/
def OutputFollows (rules : PaneRules) (screen : RustString) (start : Nat) : Prop :=
  ∃ line position, (line, position) ∈ (lines screen).zipIdx ∧ isTurnOutput rules line = true ∧
    start < position

variable {rules : PaneRules} {screen text : RustString} {start : Nat}

/-- The last item that passes a test stands behind a position if any does. -/
theorem lastIndex_behind_iff {Item : Type} (test : Item → Bool) (all : List Item) (start : Nat) :
    ((all.zipIdx.reverse.find? fun entry => test entry.1).map Prod.snd).any
        (fun last => decide (start < last)) = true ↔
      ∃ item position, (item, position) ∈ all.zipIdx ∧ test item = true ∧ start < position := by
  have hsorted : all.zipIdx.reverse.Pairwise fun later earlier => earlier.2 < later.2 := by
    rw [List.pairwise_reverse]
    apply List.pairwise_map.mp
    change (all.zipIdx.map Prod.snd).Pairwise (· < ·)
    rw [List.zipIdx_map_snd]
    exact List.pairwise_lt_range'
  cases hfind : all.zipIdx.reverse.find? fun entry => test entry.1 with
  | none =>
      have hnone : ∀ entry ∈ all.zipIdx, test entry.1 ≠ true := by
        simpa using List.find?_eq_none.mp hfind
      simp only [Option.map_none, Option.any_none, Bool.false_eq_true, false_iff]
      rintro ⟨item, position, hmem, htest, -⟩
      exact hnone (item, position) hmem htest
  | some last =>
      obtain ⟨htest, later, earlier, hsplit, hfails⟩ :=
        List.find?_eq_some_iff_append.mp hfind
      have hmem : last ∈ all.zipIdx := List.mem_reverse.mp (List.mem_of_find?_eq_some hfind)
      simp only [Option.map_some, Option.any_some, decide_eq_true_eq]
      constructor
      · exact fun hbehind => ⟨last.1, last.2, hmem, htest, hbehind⟩
      · rintro ⟨item, position, hitem, hpasses, hbehind⟩
        have hreversed := List.mem_reverse.mpr hitem
        rw [hsplit, List.mem_append, List.mem_cons] at hreversed
        -- the search runs backwards: what it skipped fails the test, the rest lies earlier
        rcases hreversed with hskipped | hlast | hearlier
        · have hskips := hfails (item, position) hskipped
          simp [hpasses] at hskips
        · exact hlast ▸ hbehind
        · rw [hsplit] at hsorted
          have hbefore := (List.pairwise_cons.mp (List.pairwise_append.mp hsorted).2.1).1 _ hearlier
          exact hbehind.trans hbefore

/-- A cap is reported for the last block with a marker, where no turn output follows. -/
theorem capped_iff {hit : CapHit} :
    capped screen rules = some hit ↔
      ∃ block marker, (capBlocks rules screen).getLast? = some block ∧
        capMarkerOf rules block.2 = some marker ∧ ¬OutputFollows rules screen block.1 ∧
        hit = { marker := marker.id, resetAt := capResetAt screen rules } := by
  have hbehind := lastIndex_behind_iff (isTurnOutput rules) (lines screen)
  simp only [capped]
  rw [foldl_latest fun block : Nat × RustString =>
    (capMarkerOf rules block.2).map fun marker => (block.1, marker.id)]
  · simp only [capBlocks, OutputFollows, ← hbehind, Option.isSome_map, Option.or_none]
    cases (blocks (lines screen)).filter (fun block => (capMarkerOf rules block.2).isSome)
        |>.getLast? with
    | none => simp
    | some block =>
        cases hmarker : capMarkerOf rules block.2 with
        | none => simp [hmarker]
        | some marker =>
            simp only [Option.bind_some, hmarker, Option.map_some, Option.some.injEq]
            split_ifs with houtput
            · simp [houtput]
            · constructor
              · intro hhit
                exact ⟨block, marker, rfl, hmarker, houtput, (Option.some.inj hhit).symm⟩
              · rintro ⟨_, _, rfl, hsame, -, rfl⟩
                obtain rfl := Option.some.inj (hmarker.symm.trans hsame)
                rfl
  · intro hit block
    cases capMarkerOf rules block.2 <;> rfl

/-! ## Reset headers -/

def resetKey (rules : PaneRules) : RustString := rs "\"" ++ rules.capped.resetHeader ++ rs "\":\""

/-- The value in front of the closing quote is the instant in epoch milliseconds. -/
def OpensWithReset (rest resetAt : RustString) : Prop :=
  ∃ value back millis, rest = value ++ '"' :: back ∧ '"' ∉ value ∧
    parseU64 (trim value) = some millis ∧ resetAt = formatUtc (millis / 1000)

/-- Some reset header of the text gives the instant. -/
def ShowsReset (rules : PaneRules) (text resetAt : RustString) : Prop :=
  ∃ front rest, text = front ++ resetKey rules ++ rest ∧ OpensWithReset rest resetAt

/-- The first reset header of the text gives the instant. -/
def FirstReset (rules : PaneRules) (text resetAt : RustString) : Prop :=
  ∃ front rest, text = front ++ resetKey rules ++ rest ∧
    (∀ earlier other, text = earlier ++ resetKey rules ++ other →
      front.length ≤ earlier.length) ∧
    OpensWithReset rest resetAt

theorem takeWhile_quote {value : RustString} (hvalue : '"' ∉ value) (back : RustString) :
    (value ++ '"' :: back).takeWhile (· != '"') = value := by
  have hopen : ∀ char ∈ value, (char != '"') = true := by
    intro char hchar
    simp only [bne_iff_ne, ne_eq]
    rintro rfl
    exact hvalue hchar
  rw [List.takeWhile_append_of_pos hopen]
  simp

theorem opensWithReset_iff (rest resetAt : RustString) :
    (if rest.contains '"' then do
        let millis ← parseU64 (trim (rest.takeWhile (· != '"')))
        some (formatUtc (millis / 1000))
      else none) = some resetAt ↔ OpensWithReset rest resetAt := by
  constructor
  · intro hopens
    split_ifs at hopens with hquote
    have hmem : '"' ∈ rest := by simpa using hquote
    obtain ⟨value, back, rfl, hvalue⟩ := List.eq_append_cons_of_mem hmem
    rw [takeWhile_quote hvalue] at hopens
    obtain ⟨millis, hmillis, hformat⟩ := Option.bind_eq_some_iff.mp hopens
    rw [Option.some.injEq] at hformat
    exact ⟨value, back, millis, rfl, hvalue, hmillis, hformat.symm⟩
  · rintro ⟨value, back, millis, rfl, hvalue, hmillis, hformat⟩
    apply (if_pos (by simp)).trans
    rw [hformat, takeWhile_quote hvalue]
    exact Option.bind_eq_some_iff.mpr ⟨millis, hmillis, rfl⟩

theorem capResetAt_iff (rules : PaneRules) (screen resetAt : RustString) :
    capResetAt screen rules = some resetAt ↔ FirstReset rules screen resetAt := by
  have hkey : resetKey rules ≠ [] := by simp [resetKey, rs]
  rw [capResetAt, ← resetKey]
  constructor
  · intro hfound
    obtain ⟨rest, hbehind, hrest⟩ := Option.bind_eq_some_iff.mp hfound
    obtain ⟨front, hsplit, hleast⟩ := (behind_eq_some_iff hkey screen rest).mp hbehind
    exact ⟨front, rest, hsplit, hleast, (opensWithReset_iff rest resetAt).mp hrest⟩
  · rintro ⟨front, rest, hsplit, hleast, hopens⟩
    exact Option.bind_eq_some_iff.mpr ⟨rest,
      (behind_eq_some_iff hkey screen rest).mpr ⟨front, hsplit, hleast⟩,
      (opensWithReset_iff rest resetAt).mpr hopens⟩

/-! ## Whose instant is reported -/

/-- What is reported is the last block with a marker: its marker, and an instant that it
shows or none. -/
def ReportsItsReset (rules : PaneRules) (screen : RustString) (hit : CapHit) : Prop :=
  ∃ block marker, (capBlocks rules screen).getLast? = some block ∧
    capMarkerOf rules block.2 = some marker ∧ hit.marker = marker.id ∧
    (∀ resetAt, hit.resetAt = some resetAt → ShowsReset rules block.2 resetAt) ∧
    ((∀ resetAt, ¬ShowsReset rules block.2 resetAt) → hit.resetAt = none)

/-- The first reset header of the screen gives an instant that the last block with a
marker does not show, and no turn output follows that block. -/
def ForeignReset (rules : PaneRules) (screen : RustString) : Prop :=
  ∃ block resetAt, (capBlocks rules screen).getLast? = some block ∧
    ¬OutputFollows rules screen block.1 ∧ FirstReset rules screen resetAt ∧
    ¬ShowsReset rules block.2 resetAt

/-- A cap is reported with its own reset instant exactly unless an instant from elsewhere
on the screen comes first. -/
theorem capped_reportsItsReset_iff (rules : PaneRules) (screen : RustString) :
    (∀ hit, capped screen rules = some hit → ReportsItsReset rules screen hit) ↔
      ¬ForeignReset rules screen := by
  constructor
  · rintro hreports ⟨block, resetAt, hlast, hquiet, hfirst, hforeign⟩
    have hreset := (capResetAt_iff rules screen resetAt).mpr hfirst
    have hmarked : (capMarkerOf rules block.2).isSome = true :=
      (List.mem_filter.mp (List.mem_of_getLast? hlast)).2
    obtain ⟨marker, hmarker⟩ := Option.isSome_iff_exists.mp hmarked
    obtain ⟨own, _, hown, -, -, hshows, -⟩ :=
      hreports _ (capped_iff.mpr ⟨block, marker, hlast, hmarker, hquiet, rfl⟩)
    obtain rfl := Option.some.inj (hlast.symm.trans hown)
    exact hforeign (hshows resetAt hreset)
  · intro hnot hit hcapped
    obtain ⟨block, marker, hlast, hmarker, hquiet, rfl⟩ := capped_iff.mp hcapped
    have hshows : ∀ resetAt, capResetAt screen rules = some resetAt →
        ShowsReset rules block.2 resetAt := by
      intro resetAt hreset
      by_contra hforeign
      exact hnot ⟨block, resetAt, hlast, hquiet, (capResetAt_iff rules screen resetAt).mp hreset,
        hforeign⟩
    refine ⟨block, marker, hlast, hmarker, rfl, hshows, fun hnone => ?_⟩
    cases hreset : capResetAt screen rules with
    | none => rfl
    | some resetAt => exact absurd (hshows resetAt hreset) (hnone resetAt)

/-- An old cap with its reset header, and a new one that shows none. -/
def twoCaps : RustString :=
  rs "free-models-per-day \"X-RateLimit-Reset\":\"86400000\"\n\nfree-models-per-day"

theorem twoCaps_oldReset :
    ¬∀ hit, capped twoCaps fewRules = some hit → ReportsItsReset fewRules twoCaps hit := by
  intro hreports
  obtain ⟨block, marker, hlast, -, -, hshows, -⟩ := hreports
    ⟨rs "free_models_per_day", some (rs "1970-01-02T00:00:00Z")⟩ (by decide)
  have hblock : (capBlocks fewRules twoCaps).getLast? = some (2, rs "free-models-per-day") := by
    decide
  obtain rfl := Option.some.inj (hblock.symm.trans hlast)
  obtain ⟨front, rest, hsplit, -⟩ := hshows _ rfl
  have hquote : '"' ∈ rs "free-models-per-day" := by
    rw [show rs "free-models-per-day" = front ++ resetKey fewRules ++ rest from hsplit]
    simp [resetKey, rs]
  exact absurd hquote (by decide)

end OdinSentinel.Say
