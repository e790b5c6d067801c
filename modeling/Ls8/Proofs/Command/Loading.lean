import Ls8.Proofs.Command.Setup
import Ls8.Proofs.ProgramFile
import Ls8.Proofs.Text.Utf8Formed

/-! # Program files loaded

A program file is read in bytes, cut into lines, and each line is decoded by itself; a text is cut into
lines as it is. Both give the same program. A content with bytes that are no text gives no program at
all, wherever these bytes stand: the command that wanted the program ends without having used a line of
it. -/

namespace Ls8.Command

open Log (Filter)

theorem programOfContent_encode (text : String) :
    programOfContent (Text.Utf8.encode text) = .ok (ProgramFile.parse text) := by
  rw [programOfContent, ProgramFile.ofBytes?_encode]

theorem programOfContent_of_not_text {content : List UInt8}
    (other : ∀ text : String, Text.Utf8.encode text ≠ content) :
    programOfContent content = .error .notText := by
  rw [programOfContent, ProgramFile.ofBytes?_eq, Text.Utf8.decode?_eq_none_iff.mpr other]
  rfl

/-- A content that encodes a text is loaded as the program in this text; a content that encodes none is
not loaded, because it is no text. A command that reads a program file goes on with this program, or
reports this error and exits. -/
theorem load_agrees_with_parse (content : List UInt8) :
    (∀ text : String, Text.Utf8.encode text = content →
      programOfContent content = .ok (ProgramFile.parse text)) ∧
    ((∀ text : String, Text.Utf8.encode text ≠ content) →
      programOfContent content = .error .notText) ∧
    ∀ (s : Console) (path : String) (filter : Filter) (next : ProgramFile → Script),
      s.directory.read path = .ok content →
        match programOfContent content with
        | .ok file => Script.Leads (.withProgram filter path next) s (next file)
            (s.logged filter (.fileRead path file.bytes.length))
        | .error e => Script.Leads (.withProgram filter path next) s (.exit .unusable)
            (s.report (.failure (.programUnreadable path e))) := by
  refine ⟨?_, programOfContent_of_not_text, ?_⟩
  · rintro text rfl
    exact programOfContent_encode text
  · intro s path filter next stored
    have bound : (s.directory.read path).bind programOfContent = programOfContent content := by
      rw [stored, Except.bind]
    cases loaded : programOfContent content with
    | ok file => exact Script.leads_withProgram (bound.trans loaded) next
    | error e =>
      exact (Script.leads_withProgram_of_error (bound.trans loaded) next).trans (.fail _ s)

/-- A file with all three line ends, and one with a byte in a comment that no text has. -/
theorem mixed_line_ends_loaded :
    let text := "1 # é\r\n\n-10\r# no line\n11"
    let broken : List UInt8 := Text.Utf8.encode "1\n# " ++ [0xff, 10]
    let d : Directory := ⟨[("p.ls8", broken)]⟩
    programOfContent (Text.Utf8.encode text) =
        .ok ⟨[1, 0xfe, 3], ["1 # é", "-10\r# no line", "11"]⟩ ∧
      programOfContent broken = .error .notText ∧
      Script.Leads (.withProgram .silent "p.ls8" fun _ => .exit .success) { directory := d }
        (.exit .unusable)
        { directory := d, reports := #[.failure (.programUnreadable "p.ls8" .notText)] } := by
  intro text broken d
  have other : ∀ text : String, Text.Utf8.encode text ≠ broken :=
    Text.Utf8.decode?_eq_none_iff.mp (by decide)
  have stored : d.read "p.ls8" = .ok broken := by decide
  obtain ⟨parsed, -, -⟩ := load_agrees_with_parse (Text.Utf8.encode text)
  obtain ⟨-, refused, used⟩ := load_agrees_with_parse broken
  have ended := used { directory := d } "p.ls8" .silent (fun _ => .exit .success) stored
  rw [refused other] at ended
  exact ⟨(parsed text rfl).trans (by decide), refused other, ended⟩

end Ls8.Command
