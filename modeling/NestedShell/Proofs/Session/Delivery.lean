import NestedShell.Proofs.Session.Requests
import NestedShell.Proofs.Text.Lines
import NestedShell.Session.Script

/-! It does not matter how input reaches a session: in one piece, in several, or as the lines of a
script. -/
namespace NestedShell

/-- A text as a script's lines give it: every line ends with a line feed alone. -/
def Text.asTyped (text : String) : String :=
  String.ofList (closed (withoutReturns text.toList))

namespace Session
variable {κ : Type}

/-- The end of a script, from what its text comes to. Where a statement is open the lexer is as new
and the error output has one line more, which reports it; the output and all else are as they are.
In any other case nothing is done, a halt among them. -/
def endScript : Session κ × Except Halt Progress → Session κ × Except Failure Unit
  | (s, .ok .incomplete) =>
    let err := s.screen.err ++ "unexpected end of input\n"
    ({ s with lexer := {}, screen := { s.screen with err } }, .ok ())
  | (s, _) => (s, .ok ())

theorem error_unterminated (s : Session κ) :
    s.resetLexer.error Lexer.LexError.unterminated.message =
      { s with
        lexer := {}
        screen := { s.screen with err := s.screen.err ++ "unexpected end of input\n" } } := by
  have hline : Lexer.LexError.unterminated.message ++ "\n" = "unexpected end of input\n" := by
    decide +kernel
  rw [← hline, ← String.append_assoc]
  rfl

variable [Blueprint κ]

/-- Feeds a text that comes in pieces, one call for each, up to a halt. The answer is that of the
last call made. -/
def feedPieces (first : String) : List String → Session κ → Session κ × Except Halt Progress
  | [], s => s.feed first
  | next :: rest, s =>
    match s.feed first with
    | (s, .ok _) => feedPieces next rest s
    | halted => halted

theorem feed_append (text more : String) (s : Session κ) :
    s.feed (text ++ more) =
      match s.feed text with
      | (s, .ok _) => s.feed more
      | halted => halted := by
  simp only [feed, String.toList_append, feedChars_append]
  rcases s.feedChars text.toList with ⟨s, _ | _⟩ <;> rfl

theorem feedPieces_eq_feed (first : String) (rest : List String) (s : Session κ) :
    s.feedPieces first rest = s.feed (String.join (first :: rest)) := by
  induction rest generalizing first s with
  | nil => simp [feedPieces]
  | cons next rest ih =>
    rw [String.join_cons, feed_append, feedPieces]
    split
    · exact ih next _
    · rfl

theorem runLines_ok (number : ℕ) (lines : List String) (s : Session κ) :
    s.runLines number (lines.map .ok) =
      endScript (s.feed (String.join (lines.map (·.push '\n')))) := by
  induction lines generalizing number s with
  | nil =>
    have hempty : s.feed "" = (s, .ok s.progress) := rfl
    rw [List.map_nil, List.map_nil, String.join_nil, hempty]
    by_cases h : s.lexer.isComplete <;>
      simp [runLines, endScript, progress, h, error_unterminated]
  | cons line lines ih =>
    rw [List.map_cons, List.map_cons, String.join_cons, feed_append, runLines]
    rcases s.feed (line.push '\n') with ⟨s, halt | answer⟩
    · rfl
    · exact ih (number + 1) s

theorem scriptLines_encode (text : String) :
    scriptLines (Text.Utf8.encode text) = (Text.linesOf text).map .ok := by
  have hbytes : Text.Utf8.encode text = Text.Utf8.bytes text.toList := rfl
  simp [scriptLines, Text.linesOf, hbytes, Text.lines_bytes, Text.Utf8.text?_bytes]

theorem join_linesOf (text : String) :
    String.join ((Text.linesOf text).map (·.push '\n')) = Text.asTyped text := by
  have hnone : '\n' ∉ ([] : List Char) := List.not_mem_nil
  have hlines := Text.flatMap_linesFrom hnone text.toList
  apply String.toList_inj.mp
  simp only [Text.asTyped, Text.linesOf, Text.lines, String.toList_join, String.toList_ofList,
    List.map_map, List.flatMap_map, Function.comp_apply, String.toList_push]
  exact hlines

/-- However a text is cut, it is fed as one; and a script is the feeding of its text, but for a
statement that is open at its end. That is reported in a line of the error output and dropped. -/
theorem feed_of_any_delivery (s : Session κ) :
    (∀ first rest, s.feedPieces first rest = s.feed (String.join (first :: rest))) ∧
      ∀ text,
        let typed := s.feed (Text.asTyped text)
        let script := s.runScript (scriptLines (Text.Utf8.encode text))
        (typed.2 ≠ .ok .incomplete → script = (typed.1, .ok ())) ∧
        (typed.2 = .ok .incomplete →
          let err := typed.1.screen.err ++ "unexpected end of input\n"
          let screen := { typed.1.screen with err }
          script = ({ typed.1 with lexer := {}, screen }, .ok ())) := by
  refine ⟨fun first rest => feedPieces_eq_feed first rest s, fun text => ?_⟩
  have hscript : s.runScript (scriptLines (Text.Utf8.encode text)) =
      endScript (s.feed (Text.asTyped text)) := by
    rw [runScript, scriptLines_encode, runLines_ok, join_linesOf]
  rw [hscript]
  rcases s.feed (Text.asTyped text) with ⟨typed, halt | _ | _⟩
  · exact ⟨fun _ => rfl, nofun⟩
  · exact ⟨fun _ => rfl, nofun⟩
  · exact ⟨fun hopen => absurd rfl hopen, fun _ => rfl⟩

/-- A script that opens a context and then a quote, and one that does not open the quote. -/
theorem feed_of_any_delivery_openQuote :
    let s : Session Nest := ({} : Session Nest).push (Nest.context "main")
    let opened := s.runScript (scriptLines (Text.Utf8.encode "nest\r\n'b"))
    let closed := s.runScript (scriptLines (Text.Utf8.encode "nest\r\n"))
    (s.feed (Text.asTyped "nest\r\n'b")).2 = .ok .incomplete ∧
      opened.1.screen = { err := "unexpected end of input\n" } ∧ opened.1.depth = 2 ∧
      (s.feed (Text.asTyped "nest\r\n")).2 ≠ .ok .incomplete ∧
      closed.1.screen = {} ∧ closed.1.depth = 2 := by
  intro s opened closed
  have hopen : (s.feed (Text.asTyped "nest\r\n'b")).2 = .ok .incomplete := by decide +kernel
  have hclosed : (s.feed (Text.asTyped "nest\r\n")).2 ≠ .ok .incomplete := by decide +kernel
  have hreported : opened = _ := ((feed_of_any_delivery s).2 "nest\r\n'b").2 hopen
  have hquiet : closed = _ := ((feed_of_any_delivery s).2 "nest\r\n").1 hclosed
  rw [hreported, hquiet]
  exact ⟨hopen, by decide +kernel, by decide +kernel, hclosed, by decide +kernel, by decide +kernel⟩

end Session

end NestedShell
