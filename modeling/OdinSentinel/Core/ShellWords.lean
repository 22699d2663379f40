import Mathlib.Data.List.Basic

/-!
# Shell words

How a POSIX shell reads lines of simple commands: blanks part the words, single quotes keep
every byte, a backslash keeps the next one, and a `#` where a word would start hides the rest
of the line.  Text in which anything else is special to the shell is not read here.
-/

namespace OdinSentinel.Shell

abbrev Bytes := List UInt8

/-- A literal of ASCII characters. -/
def sh (literal : String) : Bytes := literal.toList.map fun character => character.toNat.toUInt8

/-! ## Reading -/

inductive Mode
  | between
  | word (read : Bytes)
  | quoted (read : Bytes)
  | escaped (read : Bytes)
  | comment

def isBlank (byte : UInt8) : Bool := byte == 32 || byte == 9

/-- Letters, digits and the marks that no shell treats as special in a word. -/
def isPlain (byte : UInt8) : Bool :=
  (97 ≤ byte.toNat && byte.toNat ≤ 122) || (65 ≤ byte.toNat && byte.toNat ≤ 90) ||
    (48 ≤ byte.toNat && byte.toNat ≤ 57) || (sh "-_./:,+@%").contains byte

def reserved : List Bytes :=
  ["if", "then", "else", "elif", "fi", "do", "done", "case", "esac", "while", "until", "for",
    "in"].map sh

/-- A command read up to its end, in front of the later ones. -/
def endCommand (words : List Bytes) (later : List (List Bytes)) : Option (List (List Bytes)) :=
  match words with
  | [] => some later
  | first :: _ => if reserved.contains first then none else some (words :: later)

/-- The commands of a text, behind the words of the command that it goes on. -/
def readCommands : Mode → List Bytes → Bytes → Option (List (List Bytes))
  | .between, words, [] => endCommand words []
  | .word read, words, [] => endCommand (words ++ [read]) []
  | .quoted _, _, [] => none
  | .escaped _, _, [] => none
  | .comment, words, [] => endCommand words []
  | .between, words, byte :: rest =>
      if byte = 10 then (readCommands .between [] rest).bind (endCommand words)
      else if isBlank byte then readCommands .between words rest
      else if byte = 35 then readCommands .comment words rest
      else if byte = 39 then readCommands (.quoted []) words rest
      else if byte = 92 then readCommands (.escaped []) words rest
      else if isPlain byte then readCommands (.word [byte]) words rest
      else none
  | .word read, words, byte :: rest =>
      if byte = 10 then (readCommands .between [] rest).bind (endCommand (words ++ [read]))
      else if isBlank byte then readCommands .between (words ++ [read]) rest
      else if byte = 39 then readCommands (.quoted read) words rest
      else if byte = 92 then readCommands (.escaped read) words rest
      else if isPlain byte || byte == 35 then readCommands (.word (read ++ [byte])) words rest
      else none
  | .quoted read, words, byte :: rest =>
      if byte = 39 then readCommands (.word read) words rest
      else readCommands (.quoted (read ++ [byte])) words rest
  | .escaped read, words, byte :: rest =>
      if byte = 10 then none else readCommands (.word (read ++ [byte])) words rest
  | .comment, words, byte :: rest =>
      if byte = 10 then (readCommands .between [] rest).bind (endCommand words)
      else readCommands .comment words rest

/-- The commands of a script, each with its words. -/
def commands (text : Bytes) : Option (List (List Bytes)) := readCommands .between [] text

/-! ## Quoting -/

/-- A value in single quotes, with a quote of its own written outside of them. -/
def quote (value : Bytes) : Bytes :=
  39 :: (value.flatMap fun byte => if byte = 39 then [39, 92, 39, 39] else [byte]) ++ [39]

theorem quoted_inside (read : Bytes) (words : List Bytes) (value rest : Bytes) :
    readCommands (.quoted read) words
        ((value.flatMap fun byte => if byte = 39 then [39, 92, 39, 39] else [byte]) ++ rest) =
      readCommands (.quoted (read ++ value)) words rest := by
  induction value generalizing read with
  | nil => rw [List.append_nil]; rfl
  | cons byte value ih =>
      have hshape : read ++ byte :: value = read ++ [byte] ++ value :=
        (List.append_assoc read [byte] value).symm
      rw [List.flatMap_cons, List.append_assoc, hshape]
      by_cases hquote : byte = 39
      · subst hquote
        -- Out of the quotes for the escaped one, and in again.
        exact ih (read ++ [39])
      · rw [if_neg hquote, List.singleton_append, readCommands, if_neg hquote]
        exact ih (read ++ [byte])

/-- Whatever its bytes, a quoted value is read as itself. -/
theorem word_quote (words : List Bytes) (value rest : Bytes) :
    readCommands .between words (quote value ++ rest) =
      readCommands (.word value) words rest := by
  have hinside := quoted_inside [] words value (39 :: rest)
  rw [quote, List.cons_append, List.cons_append, List.append_assoc, List.singleton_append]
  exact hinside

/-! ## Texts that add words -/

/-- A text that a shell between two words reads as those words more. -/
def Adds (text : Bytes) (added : List Bytes) : Prop :=
  ∀ (words : List Bytes) (rest : Bytes),
    readCommands .between words (text ++ rest) = readCommands .between (words ++ added) rest

/-- A text that ends a command with those words more. -/
def Ends (text : Bytes) (added : List Bytes) : Prop :=
  ∀ (words : List Bytes) (rest : Bytes), readCommands .between words (text ++ rest) =
    (readCommands .between [] rest).bind (endCommand (words ++ added))

theorem Adds.append {front back : Bytes} {first last : List Bytes} (hfront : Adds front first)
    (hback : Adds back last) : Adds (front ++ back) (first ++ last) := by
  intro words rest
  rw [List.append_assoc, hfront, hback, List.append_assoc]

theorem Adds.ends {front back : Bytes} {first last : List Bytes} (hfront : Adds front first)
    (hback : Ends back last) : Ends (front ++ back) (first ++ last) := by
  intro words rest
  rw [List.append_assoc, hfront, hback, List.append_assoc]

theorem isPlain_ne {byte : UInt8} (hbyte : isPlain byte = true) :
    byte ≠ 10 ∧ isBlank byte = false ∧ byte ≠ 35 ∧ byte ≠ 39 ∧ byte ≠ 92 := by
  have hne : ∀ other : UInt8, isPlain other = false → byte ≠ other := by
    rintro other hother rfl
    rw [hbyte] at hother
    cases hother
  refine ⟨hne 10 (by decide), ?_, hne 35 (by decide), hne 39 (by decide), hne 92 (by decide)⟩
  rw [isBlank, beq_false_of_ne (hne 32 (by decide)), beq_false_of_ne (hne 9 (by decide))]
  rfl

theorem word_plain {word : Bytes} (hword : ∀ byte ∈ word, isPlain byte = true) (read : Bytes)
    (words : List Bytes) (rest : Bytes) :
    readCommands (.word read) words (word ++ rest) =
      readCommands (.word (read ++ word)) words rest := by
  induction word generalizing read with
  | nil => rw [List.append_nil]; rfl
  | cons byte word ih =>
      have hbyte := hword byte List.mem_cons_self
      obtain ⟨hline, hblank, -, hquote, hescape⟩ := isPlain_ne hbyte
      have hrest := ih (fun other hother => hword other (List.mem_cons_of_mem _ hother))
        (read ++ [byte])
      rw [List.append_assoc, List.singleton_append] at hrest
      rw [List.cons_append, readCommands, if_neg hline, hblank, if_neg Bool.false_ne_true,
        if_neg hquote, if_neg hescape, if_pos (by rw [hbyte]; rfl)]
      exact hrest

theorem between_plain {word : Bytes} (hsome : word ≠ [])
    (hword : ∀ byte ∈ word, isPlain byte = true) (words : List Bytes) (rest : Bytes) :
    readCommands .between words (word ++ rest) = readCommands (.word word) words rest := by
  cases word with
  | nil => exact absurd rfl hsome
  | cons byte word =>
      have hbyte := hword byte List.mem_cons_self
      obtain ⟨hline, hblank, hcomment, hquote, hescape⟩ := isPlain_ne hbyte
      rw [List.cons_append, readCommands, if_neg hline, hblank, if_neg Bool.false_ne_true,
        if_neg hcomment, if_neg hquote, if_neg hescape, if_pos hbyte]
      exact word_plain (fun other hother => hword other (List.mem_cons_of_mem _ hother))
        [byte] words rest

theorem adds_quote (value : Bytes) : Adds (quote value ++ [32]) [value] := by
  intro words rest
  rw [List.append_assoc, word_quote]
  rfl

theorem adds_plain {word : Bytes} (hsome : word ≠ [])
    (hword : ∀ byte ∈ word, isPlain byte = true) : Adds (word ++ [32]) [word] := by
  intro words rest
  rw [List.append_assoc, between_plain hsome hword]
  rfl

/-- A literal text of plain words, each with a space behind it. -/
theorem adds_words {text : Bytes} {added : List Bytes}
    (hadded : (added.all fun word => !word.isEmpty && word.all isPlain) = true)
    (htext : text = added.flatMap fun word => word ++ [32]) : Adds text added := by
  subst htext
  induction added with
  | nil =>
      intro words rest
      rw [List.append_nil]
      rfl
  | cons word added ih =>
      rw [List.all_cons, Bool.and_eq_true, Bool.and_eq_true] at hadded
      obtain ⟨⟨hsome, hword⟩, hrest⟩ := hadded
      exact (adds_plain (by simpa using hsome) (List.all_eq_true.mp hword)).append (ih hrest)

theorem ends_quote (value : Bytes) : Ends (quote value ++ [10]) [value] := by
  intro words rest
  rw [List.append_assoc, word_quote]
  rfl

theorem ends_plain {word : Bytes} (hsome : word ≠ [])
    (hword : ∀ byte ∈ word, isPlain byte = true) : Ends (word ++ [10]) [word] := by
  intro words rest
  rw [List.append_assoc, between_plain hsome hword]
  rfl

/-- A comment up to the end of its line. -/
theorem ends_comment {text : Bytes} (htext : ∀ byte ∈ text, byte ≠ 10) :
    Ends (35 :: (text ++ [10])) [] := by
  have hcomment : ∀ (words : List Bytes) (rest : Bytes),
      readCommands .comment words (text ++ 10 :: rest) =
        (readCommands .between [] rest).bind (endCommand words) := by
    intro words rest
    induction text with
    | nil => rfl
    | cons byte text ih =>
        rw [List.cons_append, readCommands, if_neg (htext byte List.mem_cons_self)]
        exact ih fun other hother => htext other (List.mem_cons_of_mem _ hother)
  intro words rest
  rw [List.append_nil, List.cons_append, List.append_assoc, List.singleton_append]
  exact hcomment words rest

/-- A script of one command after another. -/
theorem commands_ends {text : Bytes} {first : Bytes} {words : List Bytes}
    (htext : Ends text (first :: words)) (hfirst : reserved.contains first = false) (rest : Bytes) :
    commands (text ++ rest) = (commands rest).map fun later => (first :: words) :: later := by
  rw [commands, htext, commands]
  cases readCommands .between [] rest with
  | none => rfl
  | some later =>
      rw [Option.bind_some, List.nil_append, endCommand, hfirst]
      rfl

end OdinSentinel.Shell
