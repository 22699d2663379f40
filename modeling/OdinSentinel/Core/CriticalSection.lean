import OdinSentinel.Core.Interleaving

/-!
# Critical sections

A store with a lock beside it.  Callers that write only between taking the lock and
freeing it, and free it once and at their end, run in effect one after the other, in
the order in which they took the lock.
-/

namespace OdinSentinel.Dialogue

variable {Caller Ask : Type} {Answer : Ask → Type} {Shared Result Middle : Type}

structure Store (Shared : Type) where
  locked : Bool
  shared : Shared

/-- Which questions take the lock, free it or write to the store, and that a store
answers them accordingly. -/
structure LockRules (answers : Answers (Store Shared) Ask Answer) where
  takes : (question : Ask) → Answer question → Bool
  frees : Ask → Prop
  writes : Ask → Prop
  taken : ∀ {before question answer after}, answers before question answer after →
    takes question answer = true →
      before.locked = false ∧ after.locked = true ∧ after.shared = before.shared
  freed : ∀ {before question answer after}, answers before question answer after →
    frees question → after.locked = false ∧ after.shared = before.shared
  kept : ∀ {before question answer after}, answers before question answer after →
    takes question answer = false → ¬frees question → after.locked = before.locked
  unwritten : ∀ {before question answer after}, answers before question answer after →
    ¬writes question → after.shared = before.shared

namespace LockRules

variable {answers : Answers (Store Shared) Ask Answer} (rules : LockRules answers)

/-- Neither takes nor frees the lock. -/
def Stays (question : Ask) : Prop :=
  ¬rules.frees question ∧ ∀ answer, rules.takes question answer = false

/-- A holder of the lock frees it at its end. -/
def Settles (post : Result → Shared → Prop) : Program Ask Answer Result → Store Shared → Prop
  | .done _, _ => False
  | .ask question next, store =>
      (rules.frees question ∧ ∀ answer after, answers store question answer after →
        ∃ result, next answer = .done result ∧ post result after.shared) ∨
      (rules.Stays question ∧ ∀ answer after, answers store question answer after →
        Settles post (next answer) after)

/-- A caller without the lock writes nothing until it takes it; from then on it does
what its section allows.  Without the lock its result is an idle one. -/
def Approaches (span : Shared → Result → Shared → Prop) (idle : Result → Prop) :
    Program Ask Answer Result → Prop
  | .done result => idle result
  | .ask question next =>
      ¬rules.frees question ∧ ¬rules.writes question ∧ ∀ answer,
        (rules.takes question answer = true → ∀ before after,
          answers before question answer after →
            rules.Settles (span before.shared) (next answer) after) ∧
        (rules.takes question answer = false → Approaches span idle (next answer))

/-! ## Composition -/

/-- A program that neither takes the lock nor writes. -/
def Quiet (post : Result → Prop) : Program Ask Answer Result → Prop
  | .done result => post result
  | .ask question next =>
      rules.Stays question ∧ ¬rules.writes question ∧ ∀ answer, Quiet post (next answer)

/-- A program that may take the lock and goes on with it. -/
def Acquires (inside : Store Shared → Result → Store Shared → Prop) (outside : Result → Prop) :
    Program Ask Answer Result → Prop
  | .done result => outside result
  | .ask question next =>
      ¬rules.frees question ∧ ¬rules.writes question ∧ ∀ answer,
        (rules.takes question answer = true → ∀ before after,
          answers before question answer after →
            Ensures answers rules.Stays (inside before) (next answer) after) ∧
        (rules.takes question answer = false → Acquires inside outside (next answer))

variable {rules}

/-- What neither takes nor frees the lock nor writes leaves the store as it is. -/
theorem idle_store {before after : Store Shared} {question : Ask} {answer : Answer question}
    (hanswer : answers before question answer after)
    (htakes : rules.takes question answer = false) (hfrees : ¬rules.frees question)
    (hwrites : ¬rules.writes question) : after = before := by
  have hlocked := rules.kept hanswer htakes hfrees
  have hshared := rules.unwritten hanswer hwrites
  cases after
  cases before
  simp_all

theorem Quiet.mono {post weaker : Result → Prop} {program : Program Ask Answer Result}
    (hquiet : rules.Quiet post program) (hweaker : ∀ result, post result → weaker result) :
    rules.Quiet weaker program := by
  induction program with
  | done result => exact hweaker result hquiet
  | ask question next ih =>
      exact ⟨hquiet.1, hquiet.2.1, fun answer => ih answer (hquiet.2.2 answer)⟩

theorem Quiet.bind {post : Middle → Prop} {final : Result → Prop}
    {first : Program Ask Answer Middle} {next : Middle → Program Ask Answer Result}
    (hquiet : rules.Quiet post first) (hnext : ∀ middle, post middle → rules.Quiet final (next middle)) :
    rules.Quiet final (first >>= next) := by
  change rules.Quiet final (first.bind next)
  induction first with
  | done middle => exact hnext middle hquiet
  | ask question rest ih =>
      exact ⟨hquiet.1, hquiet.2.1, fun answer => ih answer (hquiet.2.2 answer)⟩

theorem Quiet.approaches {span : Shared → Result → Shared → Prop} {idle : Result → Prop}
    {post : Middle → Prop} {first : Program Ask Answer Middle}
    {next : Middle → Program Ask Answer Result} (hquiet : rules.Quiet post first)
    (hnext : ∀ middle, post middle → rules.Approaches span idle (next middle)) :
    rules.Approaches span idle (first >>= next) := by
  change rules.Approaches span idle (first.bind next)
  induction first with
  | done middle => exact hnext middle hquiet
  | ask question rest ih =>
      refine ⟨hquiet.1.1, hquiet.2.1, fun answer => ⟨fun htakes => ?_, fun _ => ?_⟩⟩
      · rw [hquiet.1.2 answer] at htakes
        cases htakes
      · exact ih answer (hquiet.2.2 answer)

theorem Quiet.idle {span : Shared → Result → Shared → Prop} {idle : Result → Prop}
    {program : Program Ask Answer Result} (hquiet : rules.Quiet idle program) :
    rules.Approaches span idle program := by
  induction program with
  | done result => exact hquiet
  | ask question next ih =>
      refine ⟨hquiet.1.1, hquiet.2.1, fun answer => ⟨fun htakes => ?_, fun _ => ?_⟩⟩
      · rw [hquiet.1.2 answer] at htakes
        cases htakes
      · exact ih answer (hquiet.2.2 answer)

theorem Quiet.acquires {inside : Store Shared → Result → Store Shared → Prop}
    {outside : Result → Prop} {post : Middle → Prop} {first : Program Ask Answer Middle}
    {next : Middle → Program Ask Answer Result} (hquiet : rules.Quiet post first)
    (hnext : ∀ middle, post middle → rules.Acquires inside outside (next middle)) :
    rules.Acquires inside outside (first >>= next) := by
  change rules.Acquires inside outside (first.bind next)
  induction first with
  | done middle => exact hnext middle hquiet
  | ask question rest ih =>
      refine ⟨hquiet.1.1, hquiet.2.1, fun answer => ⟨fun htakes => ?_, fun _ => ?_⟩⟩
      · rw [hquiet.1.2 answer] at htakes
        cases htakes
      · exact ih answer (hquiet.2.2 answer)

theorem Quiet.ensures {post : Result → Prop} {program : Program Ask Answer Result}
    (hquiet : rules.Quiet post program) (store : Store Shared) :
    Ensures answers rules.Stays (fun result after => post result ∧ after = store) program
      store := by
  induction program with
  | done result => exact ⟨hquiet, rfl⟩
  | ask question next ih =>
      refine ⟨hquiet.1, fun answer after hanswer => ?_⟩
      obtain rfl := idle_store hanswer (hquiet.1.2 answer) hquiet.1.1 hquiet.2.1
      exact ih answer (hquiet.2.2 answer)

/-- A holder that goes on with another program. -/
theorem settles_bind {post : Result → Shared → Prop} {first : Program Ask Answer Middle}
    {next : Middle → Program Ask Answer Result} {store : Store Shared}
    (hfirst : Ensures answers rules.Stays
      (fun middle after => rules.Settles post (next middle) after) first store) :
    rules.Settles post (first >>= next) store := by
  change rules.Settles post (first.bind next) store
  induction first generalizing store with
  | done middle => exact hfirst
  | ask question rest ih =>
      exact .inr ⟨hfirst.1, fun answer after hanswer => ih answer (hfirst.2 answer after hanswer)⟩

theorem Acquires.bind {inside : Store Shared → Middle → Store Shared → Prop}
    {outside : Middle → Prop} {inside' : Store Shared → Result → Store Shared → Prop}
    {outside' : Result → Prop} {first : Program Ask Answer Middle}
    {next : Middle → Program Ask Answer Result} (hfirst : rules.Acquires inside outside first)
    (hinside : ∀ before middle after, inside before middle after →
      Ensures answers rules.Stays (inside' before) (next middle) after)
    (houtside : ∀ middle, outside middle → rules.Acquires inside' outside' (next middle)) :
    rules.Acquires inside' outside' (first >>= next) := by
  change rules.Acquires inside' outside' (first.bind next)
  induction first with
  | done middle => exact houtside middle hfirst
  | ask question rest ih =>
      refine ⟨hfirst.1, hfirst.2.1, fun answer => ⟨fun htakes before after hanswer => ?_,
        fun htakes => ih answer ((hfirst.2.2 answer).2 htakes)⟩⟩
      apply ensures_bind.mpr
      exact ((hfirst.2.2 answer).1 htakes before after hanswer).mono (hinside before)

theorem Acquires.approaches {span : Shared → Result → Shared → Prop} {idle : Result → Prop}
    {inside : Store Shared → Middle → Store Shared → Prop} {outside : Middle → Prop}
    {first : Program Ask Answer Middle} {next : Middle → Program Ask Answer Result}
    (hfirst : rules.Acquires inside outside first)
    (hinside : ∀ before middle after, inside before middle after →
      rules.Settles (span before.shared) (next middle) after)
    (houtside : ∀ middle, outside middle → rules.Approaches span idle (next middle)) :
    rules.Approaches span idle (first >>= next) := by
  change rules.Approaches span idle (first.bind next)
  induction first with
  | done middle => exact houtside middle hfirst
  | ask question rest ih =>
      refine ⟨hfirst.1, hfirst.2.1, fun answer => ⟨fun htakes before after hanswer => ?_,
        fun htakes => ih answer ((hfirst.2.2 answer).2 htakes)⟩⟩
      apply settles_bind
      exact ((hfirst.2.2 answer).1 htakes before after hanswer).mono (hinside before)

/-- Naming the results of a caller otherwise. -/
theorem Settles.map {post : Middle → Shared → Prop} {post' : Result → Shared → Prop}
    {program : Program Ask Answer Middle} {store : Store Shared} {name : Middle → Result}
    (hsettles : rules.Settles post program store)
    (hpost : ∀ result after, post result after → post' (name result) after) :
    rules.Settles post' (program.bind fun result => .done (name result)) store := by
  induction program generalizing store with
  | done result => exact hsettles.elim
  | ask question next ih =>
      rcases hsettles with ⟨hfrees, hends⟩ | ⟨hstays, hgoes⟩
      · refine .inl ⟨hfrees, fun answer after hanswer => ?_⟩
        obtain ⟨result, hdone, hresult⟩ := hends answer after hanswer
        refine ⟨name result, ?_, hpost result _ hresult⟩
        simp only [hdone]
        rfl
      · exact .inr ⟨hstays, fun answer after hanswer => ih answer (hgoes answer after hanswer)⟩

theorem Approaches.map {span : Shared → Middle → Shared → Prop} {idle : Middle → Prop}
    {span' : Shared → Result → Shared → Prop} {idle' : Result → Prop}
    {program : Program Ask Answer Middle} {name : Middle → Result}
    (happroaches : rules.Approaches span idle program)
    (hspan : ∀ before result after, span before result after → span' before (name result) after)
    (hidle : ∀ result, idle result → idle' (name result)) :
    rules.Approaches span' idle' (program.bind fun result => .done (name result)) := by
  induction program with
  | done result => exact hidle result happroaches
  | ask question next ih =>
      refine ⟨happroaches.1, happroaches.2.1, fun answer => ⟨fun htakes before after hanswer => ?_,
        fun htakes => ih answer ((happroaches.2.2 answer).2 htakes)⟩⟩
      exact ((happroaches.2.2 answer).1 htakes before after hanswer).map (hspan before.shared)

/-! ## One caller alone -/

theorem Settles.ensures {post : Result → Shared → Prop} {program : Program Ask Answer Result}
    {store : Store Shared} (hsettles : rules.Settles post program store) :
    Ensures answers (fun _ => True) (fun result after => after.locked = false ∧
      post result after.shared) program store := by
  induction program generalizing store with
  | done result => exact hsettles.elim
  | ask question next ih =>
      refine ⟨trivial, fun answer after hanswer => ?_⟩
      rcases hsettles with ⟨hfrees, hends⟩ | ⟨-, hgoes⟩
      · obtain ⟨result, hdone, hpost⟩ := hends answer after hanswer
        rw [hdone]
        exact ⟨(rules.freed hanswer hfrees).1, hpost⟩
      · exact ih answer (hgoes answer after hanswer)

/-- Alone, a caller leaves the store as it was or as its section leaves it, and the lock
as it was. -/
theorem Approaches.ensures {span : Shared → Result → Shared → Prop} {idle : Result → Prop}
    {program : Program Ask Answer Result} (happroaches : rules.Approaches span idle program)
    (store : Store Shared) :
    Ensures answers (fun _ => True) (fun result after => after.locked = store.locked ∧
      ((idle result ∧ after.shared = store.shared) ∨ span store.shared result after.shared))
      program store := by
  induction program with
  | done result => exact ⟨rfl, .inl ⟨happroaches, rfl⟩⟩
  | ask question next ih =>
      refine ⟨trivial, fun answer after hanswer => ?_⟩
      cases htakes : rules.takes question answer with
      | true =>
          obtain ⟨hfree, -, -⟩ := rules.taken hanswer htakes
          have hsettles := (happroaches.2.2 answer).1 htakes store after hanswer
          refine hsettles.ensures.mono fun result final hfinal => ⟨?_, .inr hfinal.2⟩
          rw [hfinal.1, hfree]
      | false =>
          obtain rfl := idle_store hanswer htakes happroaches.1 happroaches.2.1
          exact ih answer ((happroaches.2.2 answer).2 htakes)

/-! ## Many callers -/

section System

variable [DecidableEq Caller]

/-- The sections of callers, newest first, one after the other. -/
inductive Serial (span : Caller → Shared → Result → Shared → Prop) (start : Shared) :
    List (Caller × Result) → Shared → Prop
  | nil : Serial span start [] start
  | cons {order : List (Caller × Result)} {before after : Shared} {caller : Caller}
      {result : Result} (hserial : Serial span start order before)
      (hspan : span caller before result after) :
      Serial span start ((caller, result) :: order) after

variable (rules) in
/-- The callers that took the lock, newest first. -/
def holders (history : History Caller Ask Answer) : List Caller :=
  history.filterMap fun entry =>
    if rules.takes entry.2.question entry.2.answer then some entry.1 else none

variable (rules) in
/-- The sections that ended stand in the order in which they took the lock; beside them
at most one caller is in its section. -/
structure Linearized (span : Caller → Shared → Result → Shared → Prop)
    (idle : Caller → Result → Prop) (start : Shared) (order : List (Caller × Result))
    (holder : Option Caller) (base : Shared) (history : History Caller Ask Answer)
    (system : System Caller (Store Shared) Ask Answer Result) : Prop where
  serial : Serial span start order base
  distinct : (order.map Prod.fst).Nodup
  holders_eq : rules.holders history = holder.toList ++ order.map Prod.fst
  finished : ∀ entry ∈ order, system.program entry.1 = .done entry.2
  waiting : ∀ caller, caller ∉ order.map Prod.fst → some caller ≠ holder →
    rules.Approaches (span caller) (idle caller) (system.program caller)
  free : holder = none → system.world.locked = false ∧ system.world.shared = base
  held : ∀ caller, holder = some caller → system.world.locked = true ∧
    caller ∉ order.map Prod.fst ∧
    rules.Settles (span caller base) (system.program caller) system.world

variable {span : Caller → Shared → Result → Shared → Prop} {idle : Caller → Result → Prop}

omit [DecidableEq Caller] in
theorem holders_cons_taken {history : History Caller Ask Answer} {caller : Caller}
    {question : Ask} {answer : Answer question} (htakes : rules.takes question answer = true) :
    rules.holders ((caller, ⟨question, answer⟩) :: history) = caller :: rules.holders history := by
  simp [holders, htakes]

omit [DecidableEq Caller] in
theorem holders_cons_other {history : History Caller Ask Answer} {caller : Caller}
    {question : Ask} {answer : Answer question} (htakes : rules.takes question answer = false) :
    rules.holders ((caller, ⟨question, answer⟩) :: history) = rules.holders history := by
  simp [holders, htakes]

section Step

variable {start base : Shared} {order : List (Caller × Result)} {holder : Option Caller}
variable {history : History Caller Ask Answer}
variable {system : System Caller (Store Shared) Ask Answer Result}
variable {caller : Caller} {question : Ask} {next : Answer question → Program Ask Answer Result}
variable {answer : Answer question} {after : Store Shared}

/-- The holder frees the lock: its section stands last. -/
theorem Linearized.frees
    (hlinear : rules.Linearized span idle start order (some caller) base history system)
    (hanswer : answers system.world question answer after) (hfrees : rules.frees question)
    {result : Result} (hdone : next answer = .done result)
    (hspan : span caller base result after.shared) :
    rules.Linearized span idle start ((caller, result) :: order) none after.shared
      ((caller, ⟨question, answer⟩) :: history) (system.advance caller (next answer) after) := by
  obtain ⟨hlocked, hfresh, -⟩ := hlinear.held caller rfl
  have hfreed := (rules.freed hanswer hfrees).1
  have htakes : rules.takes question answer = false := by
    by_contra htakes
    obtain ⟨-, hafter, -⟩ := rules.taken hanswer (by simpa using htakes)
    rw [hfreed] at hafter
    cases hafter
  refine ⟨hlinear.serial.cons hspan, ?_, ?_, ?_, ?_, ?_, ?_⟩
  · exact List.nodup_cons.mpr ⟨hfresh, hlinear.distinct⟩
  · rw [holders_cons_other htakes, hlinear.holders_eq]
    rfl
  · intro entry hentry
    rcases List.mem_cons.mp hentry with rfl | hentry
    · rw [System.advance_self, hdone]
    · have hother : entry.1 ≠ caller :=
        fun heq => hfresh (heq ▸ List.mem_map_of_mem hentry)
      rw [System.advance_of_ne _ hother]
      exact hlinear.finished entry hentry
  · intro other hother _
    rw [List.map_cons, List.mem_cons, not_or] at hother
    rw [System.advance_of_ne _ hother.1]
    exact hlinear.waiting other hother.2 (fun heq => hother.1 (Option.some.inj heq))
  · exact fun _ => ⟨hfreed, rfl⟩
  · intro other hother
    cases hother

/-- A caller without the lock takes it. -/
theorem Linearized.takes
    (hlinear : rules.Linearized span idle start order none base history system)
    (hanswer : answers system.world question answer after)
    (htakes : rules.takes question answer = true) (hfresh : caller ∉ order.map Prod.fst)
    (hsettles : rules.Settles (span caller base) (next answer) after) :
    rules.Linearized span idle start order (some caller) base
      ((caller, ⟨question, answer⟩) :: history) (system.advance caller (next answer) after) := by
  refine ⟨hlinear.serial, hlinear.distinct, ?_, ?_, ?_, ?_, ?_⟩
  · rw [holders_cons_taken htakes, hlinear.holders_eq]
    rfl
  · intro entry hentry
    have hother : entry.1 ≠ caller := fun heq => hfresh (heq ▸ List.mem_map_of_mem hentry)
    rw [System.advance_of_ne _ hother]
    exact hlinear.finished entry hentry
  · intro other hother hcaller
    rw [System.advance_of_ne _ (fun heq => hcaller (congrArg some heq))]
    exact hlinear.waiting other hother (by simp)
  · intro hnone
    cases hnone
  · intro other hother
    obtain rfl := Option.some.inj hother
    refine ⟨(rules.taken hanswer htakes).2.1, hfresh, ?_⟩
    rw [System.advance_self]
    exact hsettles

/-- The holder goes on in its section. -/
theorem Linearized.stays
    (hlinear : rules.Linearized span idle start order (some caller) base history system)
    (hanswer : answers system.world question answer after) (hstays : rules.Stays question)
    (hsettles : rules.Settles (span caller base) (next answer) after) :
    rules.Linearized span idle start order (some caller) base
      ((caller, ⟨question, answer⟩) :: history) (system.advance caller (next answer) after) := by
  obtain ⟨hlocked, hfresh, -⟩ := hlinear.held caller rfl
  refine ⟨hlinear.serial, hlinear.distinct, ?_, ?_, ?_, ?_, ?_⟩
  · rw [holders_cons_other (hstays.2 answer)]
    exact hlinear.holders_eq
  · intro entry hentry
    have hother : entry.1 ≠ caller := fun heq => hfresh (heq ▸ List.mem_map_of_mem hentry)
    rw [System.advance_of_ne _ hother]
    exact hlinear.finished entry hentry
  · intro other hother hcaller
    rw [System.advance_of_ne _ (fun heq => hcaller (congrArg some heq))]
    exact hlinear.waiting other hother hcaller
  · intro hnone
    cases hnone
  · intro other hother
    obtain rfl := Option.some.inj hother
    refine ⟨?_, hfresh, ?_⟩
    · rw [← hlocked]
      exact rules.kept hanswer (hstays.2 answer) hstays.1
    · rw [System.advance_self]
      exact hsettles

/-- A caller without the lock goes on without it. -/
theorem Linearized.waits
    (hlinear : rules.Linearized span idle start order holder base history system)
    (hanswer : answers system.world question answer after)
    (htakes : rules.takes question answer = false) (hfrees : ¬rules.frees question)
    (hwrites : ¬rules.writes question) (hfresh : caller ∉ order.map Prod.fst)
    (hholder : some caller ≠ holder)
    (happroaches : rules.Approaches (span caller) (idle caller) (next answer)) :
    rules.Linearized span idle start order holder base
      ((caller, ⟨question, answer⟩) :: history) (system.advance caller (next answer) after) := by
  obtain rfl := idle_store hanswer htakes hfrees hwrites
  refine ⟨hlinear.serial, hlinear.distinct, ?_, ?_, ?_, hlinear.free, ?_⟩
  · rw [holders_cons_other htakes]
    exact hlinear.holders_eq
  · intro entry hentry
    have hother : entry.1 ≠ caller := fun heq => hfresh (heq ▸ List.mem_map_of_mem hentry)
    rw [System.advance_of_ne _ hother]
    exact hlinear.finished entry hentry
  · intro other hother hcaller
    by_cases heq : other = caller
    · subst heq
      rw [System.advance_self]
      exact happroaches
    · rw [System.advance_of_ne _ heq]
      exact hlinear.waiting other hother hcaller
  · intro other hother
    have hne : other ≠ caller := fun heq => hholder (heq ▸ hother.symm)
    rw [System.advance_of_ne _ hne]
    exact hlinear.held other hother

/-- One step of a system keeps it linearized. -/
theorem Linearized.step
    (hlinear : rules.Linearized span idle start order holder base history system)
    (hprogram : system.program caller = .ask question next)
    (hanswer : answers system.world question answer after) :
    ∃ order holder base, rules.Linearized span idle start order holder base
      ((caller, ⟨question, answer⟩) :: history) (system.advance caller (next answer) after) := by
  have hfresh : caller ∉ order.map Prod.fst := by
    intro hmem
    obtain ⟨entry, hentry, rfl⟩ := List.mem_map.mp hmem
    have hdone := hlinear.finished entry hentry
    rw [hprogram] at hdone
    cases hdone
  by_cases hholder : holder = some caller
  · subst hholder
    obtain ⟨-, -, hsettles⟩ := hlinear.held caller rfl
    rw [hprogram] at hsettles
    rcases hsettles with ⟨hfrees, hends⟩ | ⟨hstays, hgoes⟩
    · obtain ⟨result, hdone, hspan⟩ := hends answer after hanswer
      exact ⟨_, _, _, hlinear.frees hanswer hfrees hdone hspan⟩
    · exact ⟨_, _, _, hlinear.stays hanswer hstays (hgoes answer after hanswer)⟩
  · have happroaches := hlinear.waiting caller hfresh (Ne.symm hholder)
    rw [hprogram] at happroaches
    cases htakes : rules.takes question answer with
    | false =>
        exact ⟨_, _, _, hlinear.waits hanswer htakes happroaches.1 happroaches.2.1 hfresh
          (Ne.symm hholder) ((happroaches.2.2 answer).2 htakes)⟩
    | true =>
        obtain ⟨hfree, -, -⟩ := rules.taken hanswer htakes
        cases holder with
        | some other =>
            obtain ⟨hlocked, -, -⟩ := hlinear.held other rfl
            rw [hfree] at hlocked
            cases hlocked
        | none =>
            have hsettles := (happroaches.2.2 answer).1 htakes system.world after hanswer
            rw [(hlinear.free rfl).2] at hsettles
            exact ⟨_, _, _, hlinear.takes hanswer htakes hfresh hsettles⟩

end Step

/-- Every run from a free store is linearized. -/
theorem interleaved_linearized {start : System Caller (Store Shared) Ask Answer Result}
    (hfree : start.world.locked = false)
    (happroaches : ∀ caller,
      rules.Approaches (span caller) (idle caller) (start.program caller))
    {history : History Caller Ask Answer}
    {system : System Caller (Store Shared) Ask Answer Result}
    (hrun : Interleaved answers start history system) :
    ∃ order holder base,
      rules.Linearized span idle start.world.shared order holder base history system := by
  induction hrun with
  | nil =>
      refine ⟨[], none, start.world.shared, .nil, List.nodup_nil, rfl, ?_, ?_, ?_, ?_⟩
      · intro entry hentry
        cases hentry
      · exact fun caller _ _ => happroaches caller
      · exact fun _ => ⟨hfree, rfl⟩
      · intro caller hcaller
        cases hcaller
  | step _ hprogram hanswer ih =>
      obtain ⟨order, holder, base, hlinear⟩ := ih
      exact hlinear.step hprogram hanswer

end System

end LockRules

end OdinSentinel.Dialogue
