import OdinSentinel.Core.Text

/-!
# Rust strings

A Rust `String` is a list of Unicode scalar values.  Only the standard methods
that the sender uses are here.
-/

namespace OdinSentinel.RustText

abbrev RustString := List Char

/-- A string literal. -/
def rs (literal : String) : RustString := literal.toList

/-- `char::is_whitespace`, the `White_Space` property. -/
def isWhitespace (char : Char) : Bool :=
  let code := char.toNat
  (9 ≤ code && code ≤ 13) || code == 0x20 || code == 0x85 || code == 0xA0 || code == 0x1680 ||
    (0x2000 ≤ code && code ≤ 0x200A) || code == 0x2028 || code == 0x2029 || code == 0x202F ||
    code == 0x205F || code == 0x3000

/-- `text.trim()`. -/
def trim (text : RustString) : RustString := Text.trimBy isWhitespace text

/-- `text.trim_start()`. -/
def trimStart (text : RustString) : RustString := text.dropWhile isWhitespace

/-- A finished line, its characters in reverse, without the `\r` of its line ending. -/
def closeLine (reversed : RustString) : RustString :=
  match reversed with
  | '\r' :: rest => rest.reverse
  | _ => reversed.reverse

/-- The lines of a text behind a started one. -/
def linesFrom (started : RustString) : RustString → List RustString
  | [] => if started = [] then [] else [started.reverse]
  | '\n' :: rest => closeLine started :: linesFrom [] rest
  | char :: rest => linesFrom (char :: started) rest

/-- `text.lines()`. -/
def lines (text : RustString) : List RustString := linesFrom [] text

/-- `lines.join("\n")`. -/
def joinLines (lines : List RustString) : RustString := List.intercalate ['\n'] lines

theorem closeLine_starts (reversed : RustString) : closeLine reversed <+: reversed.reverse := by
  unfold closeLine
  split
  · rw [List.reverse_cons]
    exact List.prefix_append _ _
  · exact List.prefix_rfl

theorem linesFrom_append {line : RustString} (hline : '\n' ∉ line) (started rest : RustString) :
    linesFrom started (line ++ '\n' :: rest) =
      closeLine (line.reverse ++ started) :: linesFrom [] rest := by
  induction line generalizing started with
  | nil => simp [linesFrom]
  | cons char line ih =>
      have hchar := List.ne_of_not_mem_cons hline
      have hline := List.not_mem_of_not_mem_cons hline
      rw [List.cons_append, linesFrom, ih hline]
      · simp
      · exact Ne.symm hchar

theorem linesFrom_unended {line : RustString} (hline : '\n' ∉ line) (started : RustString) :
    linesFrom started line =
      if line.reverse ++ started = [] then [] else [started.reverse ++ line] := by
  induction line generalizing started with
  | nil => simp [linesFrom]
  | cons char line ih =>
      have hchar := List.ne_of_not_mem_cons hline
      have hline := List.not_mem_of_not_mem_cons hline
      rw [linesFrom, ih hline]
      · simp
      · exact Ne.symm hchar

theorem not_mem_of_mem_linesFrom {started text line : RustString} (hstarted : '\n' ∉ started)
    (hmem : line ∈ linesFrom started text) : '\n' ∉ line := by
  induction started, text using linesFrom.induct with
  | case1 => simp [linesFrom] at hmem
  | case2 started hstarted' =>
      simp only [linesFrom, hstarted', if_false, List.mem_singleton] at hmem
      simpa [hmem] using hstarted
  | case3 started rest ih =>
      rw [linesFrom, List.mem_cons] at hmem
      rcases hmem with rfl | hmem
      · exact fun hin => hstarted (List.mem_reverse.mp ((closeLine_starts started).subset hin))
      · exact ih List.not_mem_nil hmem
  | case4 started char rest hchar ih =>
      rw [linesFrom] at hmem
      · exact ih (List.not_mem_cons_of_ne_of_not_mem (Ne.symm hchar) hstarted) hmem
      · exact hchar

/-- A line of joined lines is one of them, but for a `\r` at its end. -/
theorem exists_line_of_mem_lines {all : List RustString} (hall : ∀ line ∈ all, '\n' ∉ line)
    {line : RustString} (hmem : line ∈ lines (joinLines all)) : ∃ whole ∈ all, line <+: whole := by
  induction all with
  | nil => simp [lines, joinLines, linesFrom] at hmem
  | cons first rest ih =>
      obtain ⟨hfirst, hrest⟩ := List.forall_mem_cons.mp hall
      cases rest with
      | nil =>
          have hjoin : joinLines [first] = first := by simp [joinLines, List.intercalate]
          rw [hjoin, lines, linesFrom_unended hfirst] at hmem
          split_ifs at hmem
          · cases hmem
          · exact ⟨first, List.mem_singleton_self first, by simp_all⟩
      | cons second rest =>
          have hjoin : joinLines (first :: second :: rest) =
              first ++ '\n' :: joinLines (second :: rest) := by
            simp [joinLines, List.intercalate]
          rw [hjoin, lines, linesFrom_append hfirst, List.mem_cons] at hmem
          rcases hmem with rfl | hmem
          · have hclosed := closeLine_starts (first.reverse ++ [])
            rw [List.append_nil, List.reverse_reverse] at hclosed
            exact ⟨first, List.mem_cons_self, by simpa using hclosed⟩
          · obtain ⟨whole, hwhole, hstarts⟩ := ih hrest hmem
            exact ⟨whole, List.mem_cons_of_mem first hwhole, hstarts⟩
/-- `text.contains(part)`. -/
def contains (text part : RustString) : Bool := Text.contains text part

/-- What stands behind the first occurrence of a part. -/
def behind (part : RustString) : RustString → Option RustString
  | [] => if part = [] then some [] else none
  | char :: rest =>
      if part.isPrefixOf (char :: rest) then some ((char :: rest).drop part.length)
      else behind part rest

def isAsciiDigit (char : Char) : Bool := 48 ≤ char.toNat && char.toNat ≤ 57

/-- `text.parse::<u64>().ok()`. -/
def parseU64 (text : RustString) : Option UInt64 :=
  let digits := if text.head? = some '+' then text.drop 1 else text
  if digits = [] ∨ digits.any (fun char => !isAsciiDigit char) then none
  else
    let value := digits.foldl (fun value char => value * 10 + (char.toNat - 48)) 0
    if value < UInt64.size then some (UInt64.ofNat value) else none

end OdinSentinel.RustText
