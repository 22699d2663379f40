import Mathlib.Logic.Relation
import OdinSentinel.Core.Interleaving

/-!
# Parts under locks

A world of parts with a lock beside each.  A caller that changes a part only while it holds
the part's lock knows between its steps what is in it.  What such callers do, in any
interleaving, refines a system that has only the parts and a state for every caller.
-/

namespace OdinSentinel.Dialogue

open Relation

variable {Caller Ask : Type} {Answer : Ask → Type} {World Result Next Lock Part Own : Type}

/-- The part of a world behind each lock, and which questions take a lock, free it or
change the part. -/
structure Guards (answers : Answers World Ask Answer) (Lock Part : Type) where
  part : World → Lock → Part
  held : World → Lock → Prop
  takes : (question : Ask) → Answer question → Lock → Prop
  frees : Ask → Lock → Prop
  changes : Ask → Lock → Prop
  taken : ∀ {before question answer after lock}, answers before question answer after →
    takes question answer lock → ¬held before lock ∧ held after lock
  stays : ∀ {before question answer after lock}, answers before question answer after →
    ¬frees question lock → held before lock → held after lock
  unchanged : ∀ {before question answer after lock}, answers before question answer after →
    ¬changes question lock → part after lock = part before lock

/-- What a caller may do: from its own state and a part to its own state and the part. -/
abbrev Moves (Own Lock Part : Type) := Own → Lock → Part → Own → Part → Prop

/-- The lock that a caller holds, and what is behind it. -/
abbrev Holding (Lock Part : Type) := Option (Lock × Part)

/-- A move that leaves the part as it is: the one held, or whatever one is. -/
def Idles (moves : Moves Own Lock Part) : Holding Lock Part → Own → Own → Prop
  | some (lock, part), own, next => moves own lock part next part
  | none, own, next => ∃ lock, ∀ part, moves own lock part next part

/-- Holds behind moves that leave the part as it is. -/
def Rested (moves : Moves Own Lock Part) (wanted : Holding Lock Part → Own → Prop)
    (holding : Holding Lock Part) (own : Own) : Prop :=
  ∃ next, ReflTransGen (Idles moves holding) own next ∧ wanted holding next

namespace Guards

variable {answers : Answers World Ask Answer} (guards : Guards answers Lock Part)

/-- A question that leaves a lock and its part alone. -/
def Spares (question : Ask) (lock : Lock) : Prop :=
  ¬guards.frees question lock ∧ ¬guards.changes question lock

/-- Every step of a program is a move of its caller: without a lock it changes no part, with
one it changes the part behind that lock only. -/
def Ready (moves : Moves Own Lock Part) (post : Holding Lock Part → Own → Result → Prop) :
    Program Ask Answer Result → Holding Lock Part → Own → Prop
  | .done result, holding, own => post holding own result
  | .ask question rest, none, own => (∀ lock, guards.Spares question lock) ∧
      ∀ before answer after, answers before question answer after →
        (∃ lock, guards.takes question answer lock ∧
          Rested moves (Ready moves post (rest answer)) (some (lock, guards.part before lock)) own) ∨
        Rested moves (Ready moves post (rest answer)) none own
  | .ask question rest, some (lock, part), own =>
      (∀ other, other ≠ lock → guards.Spares question other) ∧
      ∀ before answer after, answers before question answer after → guards.part before lock = part →
        ∃ next, moves own lock part next (guards.part after lock) ∧
          (Rested moves (Ready moves post (rest answer)) none next ∨
            ¬guards.frees question lock ∧ Rested moves (Ready moves post (rest answer))
              (some (lock, guards.part after lock)) next)

/-- A program that is ready behind moves that leave the part as it is. -/
abbrev Refines (moves : Moves Own Lock Part) (post : Holding Lock Part → Own → Result → Prop)
    (program : Program Ask Answer Result) : Holding Lock Part → Own → Prop :=
  Rested moves (guards.Ready moves post program)

end Guards

/-! ## Composition -/

/-- Questions that leave a world as it is lead to the same values in it. -/
theorem Yields.attains {Stop Scene : Type} {answers : Answers Scene Ask Answer} {may : Ask → Prop}
    {good : Result → Prop} {attempt : Attempt Ask Answer Stop Result} {scene : Scene}
    (hyields : Yields may good attempt)
    (hkept : ∀ question answer after, may question → answers scene question answer after →
      after = scene) :
    Attains answers may (fun outcome after => after = scene ∧ ∀ value, outcome = .ok value →
      good value) attempt scene := by
  have hensures : ∀ program : Program Ask Answer (Except Stop Result),
      Ensures (fun (_ : Unit) _ _ _ => True) may (fun outcome _ => ∀ value, outcome = .ok value →
        good value) program () →
      Ensures answers may (fun outcome after => after = scene ∧ ∀ value, outcome = .ok value →
        good value) program scene := by
    intro program
    induction program with
    | done outcome => exact fun hgood => ⟨rfl, hgood⟩
    | ask question rest ih =>
        intro hprogram
        refine ⟨hprogram.1, fun answer after hanswer => ?_⟩
        rw [hkept question answer after hprogram.1 hanswer]
        exact ih answer (hprogram.2 answer () trivial)
  exact hensures attempt.run hyields

section Composition

variable {answers : Answers World Ask Answer} {guards : Guards answers Lock Part}
variable {moves : Moves Own Lock Part} {holding : Holding Lock Part} {own : Own}

theorem Rested.of_now {wanted : Holding Lock Part → Own → Prop} (hwanted : wanted holding own) :
    Rested moves wanted holding own :=
  ⟨own, .refl, hwanted⟩

theorem Rested.idle {wanted : Holding Lock Part → Own → Prop} {next : Own}
    (hidle : Idles moves holding own next) (hrested : Rested moves wanted holding next) :
    Rested moves wanted holding own := by
  obtain ⟨last, hrest, hwanted⟩ := hrested
  exact ⟨last, .head hidle hrest, hwanted⟩

theorem Rested.bind {wanted final : Holding Lock Part → Own → Prop}
    (hrested : Rested moves wanted holding own)
    (hnext : ∀ next, wanted holding next → Rested moves final holding next) :
    Rested moves final holding own := by
  obtain ⟨next, hrest, hwanted⟩ := hrested
  obtain ⟨last, hmore, hfinal⟩ := hnext next hwanted
  exact ⟨last, hrest.trans hmore, hfinal⟩

theorem Rested.mono {wanted weaker : Holding Lock Part → Own → Prop}
    (hrested : Rested moves wanted holding own)
    (hweaker : ∀ next, wanted holding next → weaker holding next) :
    Rested moves weaker holding own :=
  hrested.bind fun next hwanted => .of_now (hweaker next hwanted)

namespace Guards

/-- A question leads on from one program to another where each answer does. -/
theorem Ready.step {question : Ask} {rest : Answer question → Program Ask Answer Result}
    {other : Answer question → Program Ask Answer Next}
    {wanted : Holding Lock Part → Own → Result → Prop} {post : Holding Lock Part → Own → Next → Prop}
    (hready : guards.Ready moves wanted (.ask question rest) holding own)
    (hother : ∀ answer holding own, guards.Ready moves wanted (rest answer) holding own →
      guards.Refines moves post (other answer) holding own) :
    guards.Ready moves post (.ask question other) holding own := by
  cases holding with
  | none =>
      refine ⟨hready.1, fun before answer after hanswer => ?_⟩
      rcases hready.2 before answer after hanswer with ⟨lock, htakes, hrest⟩ | hrest
      · exact .inl ⟨lock, htakes, hrest.bind fun own => hother answer _ own⟩
      · exact .inr (hrest.bind fun own => hother answer _ own)
  | some held =>
      obtain ⟨lock, part⟩ := held
      refine ⟨hready.1, fun before answer after hanswer hpart => ?_⟩
      obtain ⟨next, hmove, hrest⟩ := hready.2 before answer after hanswer hpart
      refine ⟨next, hmove, ?_⟩
      rcases hrest with hrest | ⟨hkeeps, hrest⟩
      · exact .inl (hrest.bind fun own => hother answer _ own)
      · exact .inr ⟨hkeeps, hrest.bind fun own => hother answer _ own⟩

theorem Ready.mono {post weaker : Holding Lock Part → Own → Result → Prop}
    {program : Program Ask Answer Result} (hready : guards.Ready moves post program holding own)
    (hweaker : ∀ holding own result, post holding own result → weaker holding own result) :
    guards.Ready moves weaker program holding own := by
  induction program generalizing holding own with
  | done result => exact hweaker holding own result hready
  | ask question rest ih => exact hready.step fun answer _ _ hrest => .of_now (ih answer hrest)

theorem Refines.mono {post weaker : Holding Lock Part → Own → Result → Prop}
    {program : Program Ask Answer Result} (hrefines : guards.Refines moves post program holding own)
    (hweaker : ∀ holding own result, post holding own result → weaker holding own result) :
    guards.Refines moves weaker program holding own :=
  Rested.mono hrefines fun _ hready => hready.mono hweaker

variable {post : Holding Lock Part → Own → Next → Prop}

/-- The second part of a program refines from wherever the first part ends. -/
theorem Ready.bind {program : Program Ask Answer Result} {next : Result → Program Ask Answer Next}
    (hready : guards.Ready moves
      (fun holding own result => guards.Refines moves post (next result) holding own)
      program holding own) :
    guards.Refines moves post (program >>= next) holding own := by
  change guards.Refines moves post (program.bind next) holding own
  induction program generalizing holding own with
  | done result => exact hready
  | ask question rest ih => exact .of_now (hready.step fun answer _ _ => ih answer)

/-- A program that asks first takes no idle move before that. -/
theorem Ready.bind_ask {question : Ask} {rest : Answer question → Program Ask Answer Result}
    {next : Result → Program Ask Answer Next}
    (hready : guards.Ready moves
      (fun holding own result => guards.Refines moves post (next result) holding own)
      (.ask question rest) holding own) :
    guards.Ready moves post ((Program.ask question rest).bind next) holding own :=
  hready.step fun _ _ _ => Ready.bind

theorem Ready.map {program : Program Ask Answer Result} {final : Result → Next}
    (hready : guards.Ready moves (fun holding own result => post holding own (final result))
      program holding own) :
    guards.Ready moves post (program.bind fun result => .done (final result)) holding own := by
  cases program with
  | done result => exact hready
  | ask question rest =>
      exact Ready.bind_ask (hready.mono fun holding own result hpost => .of_now hpost)

theorem Refines.bind {program : Program Ask Answer Result}
    {next : Result → Program Ask Answer Next} {wanted : Holding Lock Part → Own → Result → Prop}
    (hrefines : guards.Refines moves wanted program holding own)
    (hnext : ∀ holding own result, wanted holding own result →
      guards.Refines moves post (next result) holding own) :
    guards.Refines moves post (program >>= next) holding own :=
  Rested.bind hrefines fun _ hready => (hready.mono hnext).bind

/-- An attempt goes on from its value; where it stops, it has stopped as wanted. -/
theorem Refines.andThen {Stop : Type} {attempt : Attempt Ask Answer Stop Result}
    {next : Result → Attempt Ask Answer Stop Next}
    {wanted : Holding Lock Part → Own → Except Stop Result → Prop}
    {post : Holding Lock Part → Own → Except Stop Next → Prop}
    (hrefines : guards.Refines moves wanted attempt.run holding own)
    (hnext : ∀ holding own value, wanted holding own (.ok value) →
      guards.Refines moves post (next value).run holding own)
    (hstop : ∀ holding own stop, wanted holding own (.error stop) → post holding own (.error stop)) :
    guards.Refines moves post (attempt >>= next).run holding own := by
  change guards.Refines moves post (attempt.run >>= ExceptT.bindCont next) holding own
  apply hrefines.bind
  intro holding own outcome hwanted
  cases outcome with
  | ok value => exact hnext holding own value hwanted
  | error stop => exact .of_now (hstop holding own stop hwanted)

/-! ## Programs with and without a lock -/

/-- Questions that spare every lock may be asked without one. -/
theorem Ready.of_asides {may : Ask → Prop} {wanted : Result → Prop}
    {program : Program Ask Answer Result}
    (hensures : Ensures (fun (_ : Unit) _ _ _ => True) may (fun result _ => wanted result) program ())
    (hspares : ∀ question, may question → ∀ lock, guards.Spares question lock) :
    guards.Ready moves (fun holding next result => holding = none ∧ next = own ∧ wanted result)
      program none own := by
  induction program with
  | done result => exact ⟨rfl, rfl, hensures⟩
  | ask question rest ih =>
      refine ⟨hspares question hensures.1, fun before answer after _ => .inr (.of_now ?_)⟩
      exact ih answer (hensures.2 answer () trivial)

/-- How the part behind a lock answers, whatever else is in the world. -/
def within (guards : Guards answers Lock Part) (lock : Lock) : Answers Part Ask Answer :=
  fun part question answer next => ∃ before after, answers before question answer after ∧
    guards.part before lock = part ∧ guards.part after lock = next

/-- What a program comes to alone with a part, it comes to with the part's lock. -/
theorem Refines.of_ensures {may : Ask → Prop} {wanted : Result → Part → Prop}
    {program : Program Ask Answer Result} {lock : Lock} {part : Part}
    (hensures : Ensures (guards.within lock) may wanted program part)
    (hspares : ∀ question, may question →
      ¬guards.frees question lock ∧ ∀ other, other ≠ lock → guards.Spares question other)
    (hmoves : ∀ part question answer next, may question →
      guards.within lock part question answer next → moves own lock part own next) :
    guards.Refines moves (fun holding next result =>
      ∃ part, holding = some (lock, part) ∧ next = own ∧ wanted result part)
      program (some (lock, part)) own := by
  apply Rested.of_now
  induction program generalizing part with
  | done result => exact ⟨part, rfl, rfl, hensures⟩
  | ask question rest ih =>
      obtain ⟨hkeeps, hothers⟩ := hspares question hensures.1
      refine ⟨hothers, fun before answer after hanswer hpart => ?_⟩
      have hwithin : guards.within lock part question answer (guards.part after lock) :=
        ⟨before, after, hanswer, hpart, rfl⟩
      refine ⟨own, hmoves part question answer _ hensures.1 hwithin, .inr ⟨hkeeps, .of_now ?_⟩⟩
      exact ih answer (hensures.2 answer _ hwithin)

end Guards

end Composition

/-! ## Runs -/

/-- The parts of a world, and the state of every caller. -/
structure Outline (Caller Lock Part Own : Type) where
  parts : Lock → Part
  own : Caller → Own

variable [DecidableEq Caller] [DecidableEq Lock]

/-- The outline in which a caller made a move. -/
def Outline.moved (outline : Outline Caller Lock Part Own) (caller : Caller) (lock : Lock)
    (own : Own) (part : Part) : Outline Caller Lock Part Own where
  parts := Function.update outline.parts lock part
  own := Function.update outline.own caller own

@[simp]
theorem Outline.moved_parts_self (outline : Outline Caller Lock Part Own) (caller : Caller)
    (lock : Lock) (own : Own) (part : Part) :
    (outline.moved caller lock own part).parts lock = part :=
  Function.update_self _ _ _

@[simp]
theorem Outline.moved_parts_of_ne (outline : Outline Caller Lock Part Own) (caller : Caller)
    {lock other : Lock} (hother : other ≠ lock) (own : Own) (part : Part) :
    (outline.moved caller lock own part).parts other = outline.parts other :=
  Function.update_of_ne hother _ _

@[simp]
theorem Outline.moved_own_self (outline : Outline Caller Lock Part Own) (caller : Caller)
    (lock : Lock) (own : Own) (part : Part) :
    (outline.moved caller lock own part).own caller = own :=
  Function.update_self _ _ _

@[simp]
theorem Outline.moved_own_of_ne (outline : Outline Caller Lock Part Own) {caller other : Caller}
    (hother : other ≠ caller) (lock : Lock) (own : Own) (part : Part) :
    (outline.moved caller lock own part).own other = outline.own other :=
  Function.update_of_ne hother _ _

inductive MovesTo (moves : Caller → Moves Own Lock Part) (caller : Caller) :
    Outline Caller Lock Part Own → Outline Caller Lock Part Own → Prop
  | move {outline : Outline Caller Lock Part Own} {lock : Lock} {own : Own} {part : Part}
      (hmove : moves caller (outline.own caller) lock (outline.parts lock) own part) :
      MovesTo moves caller outline (outline.moved caller lock own part)

/-- Every step of a history is some moves of the caller that made it. -/
inductive Mirrors (moves : Caller → Moves Own Lock Part) (start : Outline Caller Lock Part Own) :
    History Caller Ask Answer → Outline Caller Lock Part Own → Prop
  | nil : Mirrors moves start [] start
  | step {history : History Caller Ask Answer} {outline next : Outline Caller Lock Part Own}
      {caller : Caller} (exchange : Exchange Ask Answer)
      (hmirrors : Mirrors moves start history outline)
      (hmoves : ReflTransGen (MovesTo moves caller) outline next) :
      Mirrors moves start ((caller, exchange) :: history) next

variable {answers : Answers World Ask Answer} {guards : Guards answers Lock Part}
variable {moves : Caller → Moves Own Lock Part}
variable {post : Caller → Holding Lock Part → Own → Result → Prop}

/-- The callers hold different locks, know what is behind them and are ready to go on. -/
structure Guarding (guards : Guards answers Lock Part) (moves : Caller → Moves Own Lock Part)
    (post : Caller → Holding Lock Part → Own → Result → Prop)
    (system : System Caller World Ask Answer Result) (outline : Outline Caller Lock Part Own)
    (holding : Caller → Holding Lock Part) : Prop where
  parts : outline.parts = guards.part system.world
  ready : ∀ caller, guards.Ready (moves caller) (post caller) (system.program caller)
    (holding caller) (outline.own caller)
  held : ∀ caller lock part, holding caller = some (lock, part) →
    guards.held system.world lock ∧ guards.part system.world lock = part
  alone : ∀ caller other lock part otherPart, holding caller = some (lock, part) →
    holding other = some (lock, otherPart) → caller = other

theorem Outline.moved_part {outline : Outline Caller Lock Part Own} {lock : Lock} {part : Part}
    (hpart : outline.parts lock = part) (caller : Caller) (own : Own) :
    outline.moved caller lock own part =
      { outline with own := Function.update outline.own caller own } := by
  rw [Outline.moved, ← hpart, Function.update_eq_self]

/-- Idle moves of a caller change its own state only. -/
theorem movesTo_of_rests {caller : Caller} {holding : Holding Lock Part} {own : Own}
    {outline : Outline Caller Lock Part Own}
    (hknown : ∀ lock part, holding = some (lock, part) → outline.parts lock = part)
    (hrest : ReflTransGen (Idles (moves caller) holding) (outline.own caller) own) :
    ReflTransGen (MovesTo moves caller) outline
      { outline with own := Function.update outline.own caller own } := by
  induction hrest with
  | refl =>
      rw [Function.update_eq_self]
  | @tail own next _ hidle ih =>
      refine ih.tail ?_
      have hmove : ∃ lock, moves caller own lock (outline.parts lock) next (outline.parts lock) := by
        cases holding with
        | none =>
            obtain ⟨lock, hmove⟩ := hidle
            exact ⟨lock, hmove _⟩
        | some held =>
            obtain ⟨lock, part⟩ := held
            refine ⟨lock, ?_⟩
            rw [hknown lock part rfl]
            exact hidle
      obtain ⟨lock, hmove⟩ := hmove
      have hstep := @MovesTo.move _ _ _ _ _ _ moves caller
        { outline with own := Function.update outline.own caller own } lock next
        (outline.parts lock) (by simpa using hmove)
      rw [Outline.moved_part rfl] at hstep
      simpa using hstep

namespace Guarding

variable {system : System Caller World Ask Answer Result} {outline : Outline Caller Lock Part Own}
variable {holding : Caller → Holding Lock Part} {caller : Caller} {question : Ask}
variable {rest : Answer question → Program Ask Answer Result} {answer : Answer question}
variable {after : World}

omit [DecidableEq Lock] in
/-- What a step of one caller has to show for all of them. -/
theorem advance (hguarding : Guarding guards moves post system outline holding)
    (hanswer : answers system.world question answer after) {held : Holding Lock Part} {own : Own}
    (hready : guards.Ready (moves caller) (post caller) (rest answer) held own)
    (hheld : ∀ lock part, held = some (lock, part) →
      guards.held after lock ∧ guards.part after lock = part ∧
        ∀ other, other ≠ caller → ∀ otherPart, holding other ≠ some (lock, otherPart))
    (hspares : ∀ other, other ≠ caller → ∀ lock part, holding other = some (lock, part) →
      guards.Spares question lock) :
    Guarding guards moves post (system.advance caller (rest answer) after)
      { parts := guards.part after, own := Function.update outline.own caller own }
      (Function.update holding caller held) where
  parts := rfl
  ready other := by
    by_cases hother : other = caller
    · subst hother
      simpa using hready
    · simpa [System.advance, hother] using hguarding.ready other
  held other lock part hholding := by
    by_cases hother : other = caller
    · subst hother
      rw [Function.update_self] at hholding
      exact ⟨(hheld lock part hholding).1, (hheld lock part hholding).2.1⟩
    · rw [Function.update_of_ne hother] at hholding
      obtain ⟨hlocked, hpart⟩ := hguarding.held other lock part hholding
      obtain ⟨hfrees, hchanges⟩ := hspares other hother lock part hholding
      exact ⟨guards.stays hanswer hfrees hlocked, (guards.unchanged hanswer hchanges).trans hpart⟩
  alone first second lock part otherPart hfirst hsecond := by
    by_cases hcaller : first = caller
    · by_cases hother : second = caller
      · exact hcaller.trans hother.symm
      · subst hcaller
        rw [Function.update_self] at hfirst
        rw [Function.update_of_ne hother] at hsecond
        exact absurd hsecond ((hheld lock part hfirst).2.2 second hother otherPart)
    · rw [Function.update_of_ne hcaller] at hfirst
      by_cases hother : second = caller
      · subst hother
        rw [Function.update_self] at hsecond
        exact absurd hfirst ((hheld lock otherPart hsecond).2.2 first hcaller part)
      · rw [Function.update_of_ne hother] at hsecond
        exact hguarding.alone first second lock part otherPart hfirst hsecond

/-- A step of a caller without a lock. -/
theorem step_free (hguarding : Guarding guards moves post system outline holding)
    (hprogram : system.program caller = .ask question rest)
    (hanswer : answers system.world question answer after) (hfree : holding caller = none) :
    ∃ next holding, ReflTransGen (MovesTo moves caller) outline next ∧
      Guarding guards moves post (system.advance caller (rest answer) after) next holding := by
  have hready := hguarding.ready caller
  rw [hprogram, hfree] at hready
  obtain ⟨hspares, hrest⟩ := hready
  have hparts : outline.parts = guards.part after := by
    funext lock
    rw [hguarding.parts, guards.unchanged hanswer (hspares lock).2]
  have hmoved : ∀ own, { outline with own := Function.update outline.own caller own } =
      ({ parts := guards.part after, own := Function.update outline.own caller own } :
        Outline Caller Lock Part Own) := by
    intro own
    rw [hparts]
  rcases hrest system.world answer after hanswer with ⟨lock, htakes, own, hmoves, hready⟩ |
    ⟨own, hmoves, hready⟩
  · obtain ⟨hunheld, hheld⟩ := guards.taken hanswer htakes
    refine ⟨_, _, ?_, hguarding.advance hanswer hready ?_ fun other _ lock _ _ => hspares lock⟩
    · rw [← hmoved]
      apply movesTo_of_rests _ hmoves
      rintro _ _ ⟨⟩
      rw [hguarding.parts]
    · rintro _ _ ⟨⟩
      refine ⟨hheld, guards.unchanged hanswer (hspares lock).2, ?_⟩
      exact fun other _ part hother => hunheld (hguarding.held other lock part hother).1
  · refine ⟨_, _, ?_, hguarding.advance hanswer hready (by rintro _ _ ⟨⟩)
      fun other _ lock _ _ => hspares lock⟩
    rw [← hmoved]
    exact movesTo_of_rests (by rintro _ _ ⟨⟩) hmoves

/-- A step of a caller that holds a lock. -/
theorem step_held (hguarding : Guarding guards moves post system outline holding)
    (hprogram : system.program caller = .ask question rest)
    (hanswer : answers system.world question answer after) {lock : Lock} {part : Part}
    (hholding : holding caller = some (lock, part)) :
    ∃ next holding, ReflTransGen (MovesTo moves caller) outline next ∧
      Guarding guards moves post (system.advance caller (rest answer) after) next holding := by
  have hready := hguarding.ready caller
  rw [hprogram, hholding] at hready
  obtain ⟨hspares, hrest⟩ := hready
  obtain ⟨hlocked, hpart⟩ := hguarding.held caller lock part hholding
  obtain ⟨own, hmove, hrest⟩ := hrest system.world answer after hanswer hpart
  have hothers : ∀ other, other ≠ caller → ∀ otherLock otherPart,
      holding other = some (otherLock, otherPart) → otherLock ≠ lock := by
    rintro other hother _ otherPart hsome rfl
    exact hother (hguarding.alone other caller _ otherPart part hsome hholding)
  have hfirst : MovesTo moves caller outline
      (outline.moved caller lock own (guards.part after lock)) := by
    apply MovesTo.move
    rw [hguarding.parts, hpart]
    exact hmove
  have hparts : (outline.moved caller lock own (guards.part after lock)).parts =
      guards.part after := by
    funext other
    by_cases hother : other = lock
    · rw [hother, Outline.moved_parts_self]
    · rw [Outline.moved_parts_of_ne _ _ hother, hguarding.parts,
        guards.unchanged hanswer (hspares other hother).2]
  have hown := outline.moved_own_self caller lock own (guards.part after lock)
  -- The first move, and those that only concern the caller behind it.
  have hmoved : ∀ {held : Holding Lock Part} {last : Own},
      (∀ lock part, held = some (lock, part) → guards.part after lock = part) →
      ReflTransGen (Idles (moves caller) held) own last →
        ReflTransGen (MovesTo moves caller) outline
          { parts := guards.part after, own := Function.update outline.own caller last } := by
    intro held last hknown hmoves
    refine .head hfirst ?_
    have hidle := @movesTo_of_rests _ _ _ _ _ _ moves caller held last
      (outline.moved caller lock own (guards.part after lock)) (by rwa [hparts]) (by rwa [hown])
    rw [hparts] at hidle
    simpa [Outline.moved] using hidle
  rcases hrest with ⟨last, hmoves, hready⟩ | ⟨hkeeps, last, hmoves, hready⟩
  · refine ⟨_, _, hmoved (by rintro _ _ ⟨⟩) hmoves,
      hguarding.advance hanswer hready (by rintro _ _ ⟨⟩) ?_⟩
    exact fun other hother otherLock otherPart hsome =>
      hspares otherLock (hothers other hother otherLock otherPart hsome)
  · refine ⟨_, _, hmoved (by rintro _ _ ⟨⟩; rfl) hmoves, hguarding.advance hanswer hready ?_ ?_⟩
    · rintro _ _ ⟨⟩
      refine ⟨guards.stays hanswer hkeeps hlocked, rfl, ?_⟩
      exact fun other hother otherPart hsome => hothers other hother lock otherPart hsome rfl
    · exact fun other hother otherLock otherPart hsome =>
        hspares otherLock (hothers other hother otherLock otherPart hsome)

/-- A step of any caller is some moves of it. -/
theorem step (hguarding : Guarding guards moves post system outline holding)
    (hprogram : system.program caller = .ask question rest)
    (hanswer : answers system.world question answer after) :
    ∃ next holding, ReflTransGen (MovesTo moves caller) outline next ∧
      Guarding guards moves post (system.advance caller (rest answer) after) next holding := by
  cases hholding : holding caller with
  | none => exact hguarding.step_free hprogram hanswer hholding
  | some held => exact hguarding.step_held hprogram hanswer hholding

end Guarding

omit [DecidableEq Caller] [DecidableEq Lock] in
/-- Callers that are ready before their first question hold no lock. -/
theorem Guarding.start {system : System Caller World Ask Answer Result} {own : Caller → Own}
    (hready : ∀ caller,
      guards.Ready (moves caller) (post caller) (system.program caller) none (own caller)) :
    Guarding guards moves post system { parts := guards.part system.world, own } fun _ => none where
  parts := rfl
  ready := hready
  held := by rintro _ _ _ ⟨⟩
  alone := by rintro _ _ _ _ _ ⟨⟩

/-- In every interleaving of callers that refine their moves, the parts change by these
moves alone, each in the order of the caller's steps, and no lock has two holders. -/
theorem Interleaved.mirrors {start system : System Caller World Ask Answer Result}
    {history : History Caller Ask Answer} (hrun : Interleaved answers start history system)
    {first : Outline Caller Lock Part Own} {holds : Caller → Holding Lock Part}
    (hstart : Guarding guards moves post start first holds) :
    ∃ outline holding, Mirrors moves first history outline ∧
      Guarding guards moves post system outline holding := by
  induction hrun with
  | nil => exact ⟨first, holds, .nil, hstart⟩
  | @step history system caller question rest answer after _ hprogram hanswer ih =>
      obtain ⟨outline, holding, hmirrors, hguarding⟩ := ih
      obtain ⟨next, holding, hmoves, hguarding⟩ := hguarding.step hprogram hanswer
      exact ⟨next, holding, hmirrors.step ⟨question, answer⟩ hmoves, hguarding⟩

end OdinSentinel.Dialogue
