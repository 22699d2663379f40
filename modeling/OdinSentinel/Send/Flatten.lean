import Mathlib.Data.List.Chain
import OdinSentinel.Send.Arguments

/-!
# Flattening

What the pipeline of text tools makes of a message: its words with one space between them.
-/

namespace OdinSentinel.Send

open Shell

/-! ## Words -/

/-- What parts the words of a message. -/
def isGap (byte : UInt8) : Bool := byte == 32 || byte == 13 || byte == 10 || byte == 9

/-- A word read so far, in front of the later ones. -/
def flushWord (read : Bytes) (later : List Bytes) : List Bytes :=
  if read = [] then later else read :: later

def wordsFrom (read : Bytes) : Bytes → List Bytes
  | [] => flushWord read []
  | byte :: rest =>
      if isGap byte then flushWord read (wordsFrom [] rest) else wordsFrom (read ++ [byte]) rest

/-- The words of a text: the longest runs without white space. -/
def words (text : Bytes) : List Bytes := wordsFrom [] text

theorem wordsFrom_gap {byte : UInt8} (hbyte : isGap byte = true) (read rest : Bytes) :
    wordsFrom read (byte :: rest) = flushWord read (wordsFrom [] rest) :=
  if_pos hbyte

theorem wordsFrom_other {byte : UInt8} (hbyte : isGap byte = false) (read rest : Bytes) :
    wordsFrom read (byte :: rest) = wordsFrom (read ++ [byte]) rest :=
  if_neg (by rw [hbyte]; exact Bool.false_ne_true)

/-! ## The tools keep the words -/

theorem isGap_space : isGap 32 = true := rfl

theorem wordsFrom_separatorsToSpaces (read text : Bytes) :
    wordsFrom read (separatorsToSpaces text) = wordsFrom read text := by
  induction text generalizing read with
  | nil => rfl
  | cons byte text ih =>
      rw [separatorsToSpaces, List.map_cons, ← separatorsToSpaces]
      by_cases hbyte : byte = 13 ∨ byte = 10 ∨ byte = 9
      · have hgap : isGap byte = true := by
          rcases hbyte with rfl | rfl | rfl <;> rfl
        rw [if_pos hbyte, wordsFrom_gap isGap_space, wordsFrom_gap hgap, ih]
      · rw [if_neg hbyte]
        cases hgap : isGap byte with
        | true => rw [wordsFrom_gap hgap, wordsFrom_gap hgap, ih]
        | false => rw [wordsFrom_other hgap, wordsFrom_other hgap, ih]

theorem wordsFrom_squeezeSpaces (read text : Bytes) :
    wordsFrom read (squeezeSpaces text) = wordsFrom read text := by
  induction text using squeezeSpaces.induct generalizing read with
  | case1 => rfl
  | case2 => rfl
  | case3 byte next rest hboth ih =>
      obtain ⟨rfl, rfl⟩ := hboth
      rw [squeezeSpaces, if_pos ⟨rfl, rfl⟩, ih, wordsFrom_gap isGap_space,
        wordsFrom_gap isGap_space, wordsFrom_gap isGap_space]
      rfl
  | case4 byte next rest hboth ih =>
      rw [squeezeSpaces, if_neg hboth]
      cases hgap : isGap byte with
      | true => rw [wordsFrom_gap hgap, wordsFrom_gap hgap, ih]
      | false => rw [wordsFrom_other hgap, wordsFrom_other hgap, ih]

theorem wordsFrom_last_space (read text : Bytes) :
    wordsFrom read (text ++ [32]) = wordsFrom read text := by
  induction text generalizing read with
  | nil => rfl
  | cons byte text ih =>
      cases hgap : isGap byte with
      | true => rw [List.cons_append, wordsFrom_gap hgap, wordsFrom_gap hgap, ih]
      | false => rw [List.cons_append, wordsFrom_other hgap, wordsFrom_other hgap, ih]

/-- `sed 's/^ //'` -/
def stripFirst (text : Bytes) : Bytes := if text.head? = some 32 then text.drop 1 else text

/-- `sed 's/ $//'` -/
def stripLast (text : Bytes) : Bytes := if text.getLast? = some 32 then text.dropLast else text

theorem stripSpaces_eq (text : Bytes) : stripSpaces text = stripLast (stripFirst text) := rfl

theorem words_stripFirst (text : Bytes) : words (stripFirst text) = words text := by
  rw [stripFirst]
  split_ifs with hhead
  · obtain ⟨rest, rfl⟩ := List.head?_eq_some_iff.mp hhead
    exact (wordsFrom_gap isGap_space [] rest).symm
  · rfl

theorem words_stripLast (text : Bytes) : words (stripLast text) = words text := by
  rw [stripLast]
  split_ifs with hlast
  · obtain ⟨front, rfl⟩ := List.getLast?_eq_some_iff.mp hlast
    rw [List.dropLast_concat, words, words, wordsFrom_last_space]
  · rfl

theorem words_flatten (text : Bytes) : words (flatten text) = words text := by
  rw [flatten, stripSpaces_eq, words_stripLast, words_stripFirst, words, wordsFrom_squeezeSpaces,
    wordsFrom_separatorsToSpaces, words]

/-! ## Texts with single spaces -/

/-- Not both of them spaces. -/
def Single (byte next : UInt8) : Prop := ¬(byte = 32 ∧ next = 32)

/-- No white space but single spaces between words. -/
structure Tidy (text : Bytes) : Prop where
  spaces : ∀ byte ∈ text, isGap byte = true → byte = 32
  single : text.IsChain Single
  head : text.head? ≠ some 32
  last : text.getLast? ≠ some 32

theorem intercalate_wordsFrom (read text : Bytes)
    (hspaces : ∀ byte ∈ text, isGap byte = true → byte = 32) (hsingle : text.IsChain Single)
    (hhead : read = [] → text.head? ≠ some 32) (hlast : text.getLast? ≠ some 32) :
    [32].intercalate (wordsFrom read text) = read ++ text := by
  induction text generalizing read with
  | nil =>
      rw [wordsFrom, flushWord, List.append_nil]
      split_ifs with hread
      · rw [hread]
        rfl
      · exact List.intercalate_singleton
  | cons byte text ih =>
      rw [List.isChain_cons] at hsingle
      have hrest : ∀ byte ∈ text, isGap byte = true → byte = 32 :=
        fun other hother => hspaces other (List.mem_cons_of_mem _ hother)
      cases hgap : isGap byte with
      | true =>
          have hbyte := hspaces byte List.mem_cons_self hgap
          subst hbyte
          have hread : read ≠ [] := fun hnil => hhead hnil rfl
          have hsome : text ≠ [] := by
            rintro rfl
            exact hlast rfl
          have hnext : text.head? ≠ some 32 := fun heq => hsingle.1 32 heq ⟨rfl, rfl⟩
          have htail : text.getLast? ≠ some 32 := by
            rw [List.getLast?_cons_of_ne_nil hsome] at hlast
            exact hlast
          have hjoined := ih [] hrest hsingle.2 (fun _ => hnext) htail
          rw [List.nil_append] at hjoined
          have hlater : wordsFrom [] text ≠ [] := by
            intro hnil
            rw [hnil] at hjoined
            exact hsome hjoined.symm
          rw [wordsFrom_gap hgap, flushWord, if_neg hread,
            List.intercalate_cons_of_ne_nil hlater, hjoined]
          simp
      | false =>
          have htail : text.getLast? ≠ some 32 := by
            by_cases hnil : text = []
            · rw [hnil]
              exact nofun
            · rwa [List.getLast?_cons_of_ne_nil hnil] at hlast
          rw [wordsFrom_other hgap, ih (read ++ [byte]) hrest hsingle.2 (by simp) htail]
          simp

/-! ## What the tools leave -/

theorem head?_squeezeSpaces (text : Bytes) : (squeezeSpaces text).head? = text.head? := by
  induction text using squeezeSpaces.induct with
  | case1 => rfl
  | case2 => rfl
  | case3 byte next rest hboth ih =>
      rw [squeezeSpaces, if_pos hboth, ih, hboth.1, hboth.2]
      rfl
  | case4 byte next rest hboth ih =>
      rw [squeezeSpaces, if_neg hboth]
      rfl

theorem single_squeezeSpaces (text : Bytes) : (squeezeSpaces text).IsChain Single := by
  induction text using squeezeSpaces.induct with
  | case1 => exact List.IsChain.nil
  | case2 byte => exact List.IsChain.singleton byte
  | case3 byte next rest hboth ih =>
      rw [squeezeSpaces, if_pos hboth]
      exact ih
  | case4 byte next rest hboth ih =>
      rw [squeezeSpaces, if_neg hboth, List.isChain_cons, head?_squeezeSpaces]
      refine ⟨?_, ih⟩
      rintro _ ⟨⟩
      exact hboth

theorem mem_squeezeSpaces {byte : UInt8} {text : Bytes} (hbyte : byte ∈ squeezeSpaces text) :
    byte ∈ text := by
  induction text using squeezeSpaces.induct with
  | case1 => exact hbyte
  | case2 => exact hbyte
  | case3 first next rest hboth ih =>
      rw [squeezeSpaces, if_pos hboth] at hbyte
      exact List.mem_cons_of_mem _ (ih hbyte)
  | case4 first next rest hboth ih =>
      rw [squeezeSpaces, if_neg hboth] at hbyte
      rcases List.mem_cons.mp hbyte with rfl | hrest
      · exact List.mem_cons_self
      · exact List.mem_cons_of_mem _ (ih hrest)

theorem spaces_separatorsToSpaces {byte : UInt8} {text : Bytes}
    (hbyte : byte ∈ separatorsToSpaces text) (hgap : isGap byte = true) : byte = 32 := by
  obtain ⟨source, -, rfl⟩ := List.mem_map.mp hbyte
  by_cases hsource : source = 13 ∨ source = 10 ∨ source = 9
  · exact if_pos hsource
  · rw [if_neg hsource] at hgap ⊢
    simp only [isGap, Bool.or_eq_true, beq_iff_eq] at hgap
    tauto

theorem stripFirst_suffix (text : Bytes) : stripFirst text <:+ text := by
  rw [stripFirst]
  split_ifs
  · exact List.drop_suffix 1 text
  · exact List.suffix_refl text

theorem prefix_stripLast (text : Bytes) : stripLast text <+: text := by
  rw [stripLast]
  split_ifs
  · exact List.dropLast_prefix text
  · exact List.prefix_refl text

theorem head?_stripFirst {text : Bytes} (hsingle : text.IsChain Single) :
    (stripFirst text).head? ≠ some 32 := by
  rw [stripFirst]
  split_ifs with hhead
  · obtain ⟨rest, rfl⟩ := List.head?_eq_some_iff.mp hhead
    exact fun hnext => (List.isChain_cons.mp hsingle).1 32 hnext ⟨rfl, rfl⟩
  · exact hhead

theorem getLast?_stripLast {text : Bytes} (hsingle : text.IsChain Single) :
    (stripLast text).getLast? ≠ some 32 := by
  rw [stripLast]
  split_ifs with hlast
  · obtain ⟨front, rfl⟩ := List.getLast?_eq_some_iff.mp hlast
    rw [List.dropLast_concat]
    exact fun hbefore => (List.isChain_append.mp hsingle).2.2 32 hbefore 32 rfl ⟨rfl, rfl⟩
  · exact hlast

theorem tidy_flatten (text : Bytes) : Tidy (flatten text) := by
  have hsingle := single_squeezeSpaces (separatorsToSpaces text)
  have hfirst := hsingle.suffix (stripFirst_suffix (squeezeSpaces (separatorsToSpaces text)))
  rw [flatten, stripSpaces_eq]
  refine ⟨?_, hfirst.prefix (prefix_stripLast _), ?_, getLast?_stripLast hfirst⟩
  · intro byte hbyte
    have hstripped := (prefix_stripLast _).subset hbyte
    exact spaces_separatorsToSpaces (mem_squeezeSpaces ((stripFirst_suffix _).subset hstripped))
  · intro hhead
    obtain ⟨rest, hrest⟩ := List.head?_eq_some_iff.mp hhead
    obtain ⟨more, hmore⟩ := prefix_stripLast (stripFirst (squeezeSpaces (separatorsToSpaces text)))
    apply head?_stripFirst hsingle
    rw [← hmore, hrest]
    rfl

/-- Flattening joins the words of a text with single spaces. -/
theorem flatten_eq_words (text : Bytes) : flatten text = [32].intercalate (words text) := by
  have htidy := tidy_flatten text
  have hjoined := intercalate_wordsFrom [] (flatten text) htidy.spaces htidy.single
    (fun _ => htidy.head) htidy.last
  rw [← words_flatten, words, hjoined, List.nil_append]

/-- Two texts flatten to one exactly when they have the same words. -/
theorem flatten_eq_iff {left right : Bytes} : flatten left = flatten right ↔ words left = words right := by
  constructor
  · intro heq
    rw [← words_flatten left, heq, words_flatten]
  · intro heq
    rw [flatten_eq_words, flatten_eq_words, heq]

/-! ## The message of a send -/

theorem wordsFrom_append_newlines {newlines : Bytes} (hnewlines : ∀ byte ∈ newlines, byte = 10)
    (read text : Bytes) : wordsFrom read (text ++ newlines) = wordsFrom read text := by
  have hblank : wordsFrom [] newlines = [] := by
    induction newlines with
    | nil => rfl
    | cons byte newlines ih =>
        rw [hnewlines byte List.mem_cons_self, wordsFrom_gap rfl,
          ih fun other hother => hnewlines other (List.mem_cons_of_mem _ hother)]
        rfl
  induction text generalizing read with
  | nil =>
      cases newlines with
      | nil => rfl
      | cons byte newlines =>
          have hgap : isGap byte = true := by
            rw [hnewlines byte List.mem_cons_self]
            rfl
          rw [wordsFrom_gap hgap] at hblank
          rw [List.nil_append, wordsFrom_gap hgap]
          rw [flushWord, if_pos rfl] at hblank
          rw [hblank]
          rfl
  | cons byte text ih =>
      cases hgap : isGap byte with
      | true => rw [List.cons_append, wordsFrom_gap hgap, wordsFrom_gap hgap, ih]
      | false => rw [List.cons_append, wordsFrom_other hgap, wordsFrom_other hgap, ih]

theorem substituted_of_zero {text : Bytes} (hzero : 0 ∉ text) :
    substituted text = text.rdropWhile (· == 10) := by
  rw [substituted, List.filter_eq_self.mpr]
  intro byte hbyte
  rw [bne_iff_ne]
  rintro rfl
  exact hzero hbyte

theorem words_substituted {text : Bytes} (hzero : 0 ∉ text) :
    words (substituted text) = words text := by
  have hnewlines : ∀ byte ∈ text.rtakeWhile (· == 10), byte = 10 :=
    fun byte hbyte => by simpa using List.mem_rtakeWhile_imp hbyte
  have hwhole := List.rdropWhile_append_rtakeWhile (p := (· == (10 : UInt8))) (l := text)
  rw [substituted_of_zero hzero, words, words, ← wordsFrom_append_newlines hnewlines, hwhole]

theorem mem_flatten {byte : UInt8} {text : Bytes} (hbyte : byte ∈ flatten text) :
    byte ∈ separatorsToSpaces text := by
  rw [flatten, stripSpaces_eq] at hbyte
  exact mem_squeezeSpaces ((stripFirst_suffix _).subset ((prefix_stripLast _).subset hbyte))

/-- A flattened text ends in no newline that `$( )` could drop. -/
theorem substituted_flatten {text : Bytes} (hzero : 0 ∉ text) :
    substituted (flatten text) = flatten text := by
  have hflat : 0 ∉ flatten text := by
    intro hmem
    obtain ⟨byte, hbyte, heq⟩ := List.mem_map.mp (mem_flatten hmem)
    split_ifs at heq with hgap
    · cases heq
    · exact hzero (heq ▸ hbyte)
  rw [substituted_of_zero hflat, List.rdropWhile_eq_self_iff]
  intro hsome hlast
  have hspace := (tidy_flatten text).spaces _ (List.getLast_mem hsome)
  rw [beq_iff_eq.mp hlast] at hspace
  exact absurd (hspace rfl) (by decide)

theorem positional_flag {arg : Bytes} {set : Options → Options} (hset : flag arg = some set)
    (options : Options) : (set options).positional = options.positional := by
  rw [flag] at hset
  split_ifs at hset <;> cases hset <;> rfl

theorem positional_valueFlag {arg : Bytes} {set : Options → Bytes → Options}
    (hset : valueFlag arg = some set) (options : Options) (value : Bytes) :
    (set options value).positional = options.positional := by
  rw [valueFlag] at hset
  split_ifs at hset <;> cases hset <;> rfl

/-- The message is one of the arguments, if there is one. -/
theorem positional_mem {args : List Bytes} {options final : Options}
    (hparse : parseArgs args options = .ok final) :
    final.positional = options.positional ∨ final.positional ∈ args := by
  induction args, options using parseArgs.induct with
  | case1 options =>
      cases hparse
      exact Or.inl rfl
  | case2 options arg rest set hset ih =>
      rw [parseArgs, hset] at hparse
      rw [← positional_flag hset options]
      exact (ih hparse).imp_right (List.mem_cons_of_mem _)
  | case3 options arg hflag set hset =>
      rw [parseArgs, hflag, hset] at hparse
      cases hparse
  | case4 options arg hflag set hset value rest ih =>
      rw [parseArgs, hflag, hset] at hparse
      rw [← positional_valueFlag hset options value]
      exact (ih hparse).imp_right fun hmem => List.mem_cons_of_mem _ (List.mem_cons_of_mem _ hmem)
  | case5 options arg rest hflag hvalue stop hplain =>
      rw [parseArgs, hflag, hvalue, hplain] at hparse
      cases hparse
  | case6 options arg rest hflag hvalue next hplain ih =>
      rw [parseArgs, hflag, hvalue, hplain] at hparse
      have hnext : next.positional = arg := by
        rw [readPlain] at hplain
        split_ifs at hplain <;> cases hplain
        rfl
      rcases ih hparse with hsame | hmem
      · exact Or.inr (List.mem_cons.mpr (Or.inl (hsame.trans hnext)))
      · exact Or.inr (List.mem_cons_of_mem _ hmem)

theorem positional_prepare {world : World} {args : List Bytes} {options : Options}
    {profile : SubmitProfile} (hprepare : prepare world args = .ok (options, profile)) :
    options.positional = [] ∨ options.positional ∈ args := by
  rw [prepare] at hprepare
  cases hparse : parseArgs args { } with
  | error stop => rw [hparse] at hprepare; cases hprepare
  | ok parsed =>
      rw [hparse] at hprepare
      change (resolveTarget parsed >>= resolveProfile world.seed) = _ at hprepare
      cases htarget : resolveTarget parsed with
      | error stop => rw [htarget] at hprepare; cases hprepare
      | ok resolved =>
          rw [htarget] at hprepare
          change resolveProfile world.seed resolved = _ at hprepare
          have hresolved : resolved.positional = parsed.positional := by
            rw [resolveTarget] at htarget
            split_ifs at htarget <;> cases htarget <;> rfl
          have hoptions : options = resolved := by
            rw [resolveProfile] at hprepare
            split_ifs at hprepare
            · cases hprepare
            · cases hprepare
            · split at hprepare
              · cases hprepare
              · split_ifs at hprepare <;> cases hprepare
                rfl
          rw [hoptions, hresolved]
          exact positional_mem hparse

/-- The calls of a send under `single_line_flatten`: the message once, and at most one Enter. -/
theorem calls_singleLine {world : World} {args : List Bytes} {options : Options}
    (hasks : AsksSend world args options .singleLineFlatten) :
    ∃ later, (main world args).calls =
        .cmux (options.sendArgv .singleLineFlatten) :: later ∧
      later <+: [.cmux options.sendKeyArgv] := by
  obtain ⟨message, hmessage⟩ := hasks.reads
  have hprofile := (readMessage_ok hmessage).1
  rw [hasks.main hmessage, deliver, hasks.live, ← sendArgv_of_readMessage hmessage,
    ← sendKeyArgv_of_readMessage hmessage]
  simp only [Bool.false_eq_true, if_false, Session.finish_calls, Session.note_calls, liveSend,
    hprofile]
  by_cases hstatus : (world.reply [] (.cmux message.sendArgv)).status = 0
  · refine ⟨_, ?_, List.prefix_refl _⟩
    simp only [Session.cmux, hstatus, if_true]
    rfl
  · refine ⟨[], ?_, List.nil_prefix⟩
    simp only [Session.cmux, hstatus, if_false]
    rfl

/-- Under `single_line_flatten` a live send makes one call of `send`, and its message is the words
of the argument, joined by single spaces: one line, so that no newline in it submits a part of the
message.  The flattening alone, of the same text as input, writes that same line. -/
theorem flattened_delivery {world : World} {args : List Bytes} (hargs : ∀ arg ∈ args, 0 ∉ arg)
    {options : Options} (hasks : AsksSend world args options .singleLineFlatten) :
    ∃ line later, line = [32].intercalate (words options.positional) ∧
      (∀ byte ∈ line, byte ≠ 10 ∧ byte ≠ 13 ∧ byte ≠ 9) ∧
      (main world args).calls = .cmux [sh "send", sh "--workspace", options.workspace,
        sh "--surface", options.surface, line] :: later ∧
      later <+: [.cmux [sh "send-key", sh "--workspace", options.workspace, sh "--surface",
        options.surface, sh "enter"]] ∧
      (main { world with stdin := options.positional } (sh "--flatten-only" :: args)).stdout =
        line := by
  have hzero : 0 ∉ options.positional := by
    rcases positional_prepare hasks.prepared with hnone | hmem
    · rw [hnone]
      exact List.not_mem_nil
    · exact hargs _ hmem
  have hargv : options.sendArgv .singleLineFlatten = [sh "send", sh "--workspace",
      options.workspace, sh "--surface", options.surface, flatten options.positional] := by
    rw [Options.sendArgv, if_pos rfl, substituted_flatten hzero]
  obtain ⟨later, hcalls, hlater⟩ := calls_singleLine hasks
  rw [hargv] at hcalls
  refine ⟨flatten options.positional, later, flatten_eq_words _, ?_, hcalls, hlater, ?_⟩
  · intro byte hbyte
    have hspaces := (tidy_flatten options.positional).spaces byte hbyte
    refine ⟨?_, ?_, ?_⟩ <;> rintro rfl <;> exact absurd (hspaces rfl) (by decide)
  · have hsame : prepare { world with stdin := options.positional } args = prepare world args := rfl
    rw [main, prepare_flattenOnly, hsame, hasks.prepared]
    simp only [Except.map, Prod.map, id]
    have hmarked : (options.marked false true).flattenOnly = true := Bool.or_true _
    rw [if_pos hmarked, flattenInput, if_pos rfl]
    exact flatten_eq_iff.mpr (words_substituted hzero)

/-- Two lines with a tab in them, to one line. -/
def twoLineArgs : List Bytes :=
  ["--target", "w:108", "--profile", "single_line_flatten", "stop\n\tnow  "].map sh

def twoLineOptions : Options where
  profile := sh "single_line_flatten"
  workspace := sh "w"
  surface := sh "108"
  target := sh "w:108"
  positional := sh "stop\n\tnow  "

theorem flattened_delivery_twoLine :
    ∃ line later, line = [32].intercalate (words (sh "stop\n\tnow  ")) ∧
      (∀ byte ∈ line, byte ≠ 10 ∧ byte ≠ 13 ∧ byte ≠ 9) ∧
      (main steadyWorld twoLineArgs).calls = .cmux [sh "send", sh "--workspace", sh "w",
        sh "--surface", sh "108", line] :: later ∧
      later <+: [.cmux [sh "send-key", sh "--workspace", sh "w", sh "--surface", sh "108",
        sh "enter"]] ∧
      (main { steadyWorld with stdin := sh "stop\n\tnow  " }
        (sh "--flatten-only" :: twoLineArgs)).stdout = line :=
  @flattened_delivery steadyWorld twoLineArgs (by decide +kernel) twoLineOptions
    ⟨rfl, rfl, rfl, by decide, by decide, by decide⟩

end OdinSentinel.Send
