import Retrieval.Decimal.Positional
import Retrieval.Query.Token
import Retrieval.Text.Blank
import Retrieval.Text.Bytes

/-!
Cutting a text into tokens. A lexeme is what the text holds at one place: the characters taken, and
the token or the fault that they spell. Every lexeme takes at least one character, so the cutting
ends; the characters taken and the rest always make up the text again.
-/

namespace Retrieval

/-- The characters at the head of a text that are read together. A stray colon spells no token. -/
structure Lexeme where
  text : List Char
  outcome : Except LexFault (Option Token)
  rest : List Char

namespace Lexeme

def inWord (c : Char) : Bool :=
  !Text.isBlank c && c != '{' && c != '}' && c != '"' && c != '^' && c != '~' && c != ':'

/-- Whether a malformed number goes on with a character. -/
def inRun (c : Char) : Bool :=
  !Text.isBlank c && c != '}'

/-- Whether a number may end before some characters: at the end of the text, at white space, or at
one of the characters that are allowed to follow it. -/
def atBoundary (follows : Char → Bool) : List Char → Bool
  | [] => true
  | c :: _ => Text.isBlank c || follows c

def sign (c : Char) (token : Token) (cs : List Char) : Lexeme :=
  ⟨[c], .ok (some token), cs⟩

/-- A phrase, with the characters after its opening quote. -/
def phrase (cs : List Char) : Lexeme :=
  let content := cs.takeWhile (· != '"')
  match cs.dropWhile (· != '"') with
  | [] => ⟨'"' :: content, .error .unclosedQuote, []⟩
  | quote :: rest =>
      ⟨'"' :: (content ++ [quote]), .ok (some (.phrase (String.ofList content))), rest⟩

/-- A number that cannot be read, with the characters after its sign. -/
def malformed (c : Char) (fault : String → LexFault) (cs : List Char) : Lexeme :=
  let run := cs.takeWhile inRun
  ⟨c :: run, .error (fault (String.ofList run)), cs.dropWhile inRun⟩

def weight (cs : List Char) : Lexeme :=
  let (numeral, rest) := Decimal.Numeral.scan cs
  if numeral.chars.isEmpty then malformed '^' (fun _ => .missingWeight) cs
  else
    match numeral.value? with
    | some factor =>
        if atBoundary (· == '}') rest then
          ⟨'^' :: numeral.chars, .ok (some (.weight factor)), rest⟩
        else malformed '^' .invalidWeight cs
    | none => malformed '^' .invalidWeight cs

/-- Window sizes are less than this number. -/
def windowLimit : Nat := UInt32.size

def window (cs : List Char) : Lexeme :=
  let digits := cs.takeWhile Char.isDigit
  let rest := cs.dropWhile Char.isDigit
  let size := Nat.ofDigitChars 10 digits 0
  if digits.isEmpty then malformed '~' (fun _ => .missingWindow) cs
  else if size < windowLimit && atBoundary (fun c => c == '}' || c == '^') rest then
    ⟨'~' :: digits, .ok (some (.window size)), rest⟩
  else malformed '~' .invalidWindow cs

/-- A word, which is a field if a colon follows it at once. -/
def word (c : Char) (cs : List Char) : Lexeme :=
  let text := c :: cs.takeWhile inWord
  match cs.dropWhile inWord with
  | ':' :: rest => ⟨text ++ [':'], .ok (some (.field (String.ofList text))), rest⟩
  | rest => ⟨text, .ok (some (.term (String.ofList text))), rest⟩

/-- Colons without a word before them. They are skipped, together with a word that follows. -/
def colons (cs : List Char) : Lexeme :=
  let skipped := ':' :: cs.takeWhile (· == ':')
  match cs.dropWhile (· == ':') with
  | [] => ⟨skipped, .ok none, []⟩
  | c :: rest =>
      if inWord c then
        let next := word c rest
        { next with text := skipped ++ next.text }
      else ⟨skipped, .ok none, c :: rest⟩

/-- The lexeme that begins with a character that is not white space. -/
def scan (c : Char) (cs : List Char) : Lexeme :=
  match c with
  | '"' => phrase cs
  | '{' => sign c .openBrace cs
  | '}' => sign c .closeBrace cs
  | '+' => sign c .plus cs
  | '-' => sign c .minus cs
  | '^' => weight cs
  | '~' => window cs
  | ':' => colons cs
  | c => word c cs

theorem text_append_rest_phrase (cs : List Char) :
    (phrase cs).text ++ (phrase cs).rest = '"' :: cs := by
  have h := List.takeWhile_append_dropWhile (p := (· != '"')) (l := cs)
  simp only [phrase]
  split <;> rename_i hd <;> rw [hd] at h <;> simpa using h

theorem text_append_rest_malformed (c : Char) (fault : String → LexFault) (cs : List Char) :
    (malformed c fault cs).text ++ (malformed c fault cs).rest = c :: cs := by
  simp [malformed]

theorem chars_append_rest_scan (cs : List Char) :
    (Decimal.Numeral.scan cs).1.chars ++ (Decimal.Numeral.scan cs).2 = cs := by
  have h := List.takeWhile_append_dropWhile (p := Char.isDigit) (l := cs)
  simp only [Decimal.Numeral.scan]
  split
  · rename_i rest hd
    rw [hd] at h
    simpa [Decimal.Numeral.chars] using h
  · simp [Decimal.Numeral.chars]

theorem text_append_rest_weight (cs : List Char) :
    (weight cs).text ++ (weight cs).rest = '^' :: cs := by
  have h := chars_append_rest_scan cs
  simp only [weight]
  split
  · exact text_append_rest_malformed ..
  · split
    · split
      · simpa using h
      · exact text_append_rest_malformed ..
    · exact text_append_rest_malformed ..

theorem text_append_rest_window (cs : List Char) :
    (window cs).text ++ (window cs).rest = '~' :: cs := by
  simp only [window]
  split
  · exact text_append_rest_malformed ..
  · split
    · simp
    · exact text_append_rest_malformed ..

theorem text_append_rest_word (c : Char) (cs : List Char) :
    (word c cs).text ++ (word c cs).rest = c :: cs := by
  have h := List.takeWhile_append_dropWhile (p := inWord) (l := cs)
  simp only [word]
  split
  · rename_i rest hd
    rw [hd] at h
    simpa using h
  · simp

theorem text_append_rest_colons (cs : List Char) :
    (colons cs).text ++ (colons cs).rest = ':' :: cs := by
  have h := List.takeWhile_append_dropWhile (p := (· == ':')) (l := cs)
  simp only [colons]
  split
  · rename_i hd
    rw [hd] at h
    simpa using h
  · rename_i c rest hd
    rw [hd] at h
    split
    · simpa [text_append_rest_word] using h
    · simpa using h

/-- No character is lost. -/
theorem text_append_rest (c : Char) (cs : List Char) :
    (scan c cs).text ++ (scan c cs).rest = c :: cs := by
  unfold scan
  split
  · exact text_append_rest_phrase cs
  · rfl
  · rfl
  · rfl
  · rfl
  · exact text_append_rest_weight cs
  · exact text_append_rest_window cs
  · exact text_append_rest_colons cs
  · exact text_append_rest_word ..

theorem text_ne_nil (c : Char) (cs : List Char) : (scan c cs).text ≠ [] := by
  unfold scan
  split
  · simp only [phrase]; split <;> simp
  · simp [sign]
  · simp [sign]
  · simp [sign]
  · simp [sign]
  · simp only [weight, malformed]; repeat' split
    all_goals simp
  · simp only [window, malformed]; repeat' split
    all_goals simp
  · simp only [colons]; repeat' split
    all_goals simp
  · simp only [word]; split <;> simp

/-- Every lexeme takes at least one character. -/
theorem length_rest_lt (c : Char) (cs : List Char) :
    (scan c cs).rest.length < (c :: cs).length := by
  have happ := congrArg List.length (text_append_rest c cs)
  have hpos := List.length_pos_iff.mpr (text_ne_nil c cs)
  simp only [List.length_append] at happ
  omega

end Lexeme

def locate (position : Nat) (cs : List Char) : Except (LexFault × Span) (List Located) :=
  match _h : cs.dropWhile Text.isBlank with
  | [] => .ok []
  | c :: rest =>
      let lexeme := Lexeme.scan c rest
      let start := position + Text.byteSize (cs.takeWhile Text.isBlank)
      let span := ⟨start, start + Text.byteSize lexeme.text⟩
      match lexeme.outcome with
      | .error fault => .error (fault, span)
      | .ok none => locate span.stop lexeme.rest
      | .ok (some token) => (locate span.stop lexeme.rest).map (⟨token, span⟩ :: ·)
termination_by cs.length
decreasing_by
  all_goals
    have hle := Text.length_dropWhile_le Text.isBlank cs
    have hlt := Lexeme.length_rest_lt c rest
    rw [_h] at hle
    omega

def locateTokens (input : String) : Except LexError (List Located) :=
  match locate 0 input.toList with
  | .ok tokens => .ok tokens
  | .error (fault, span) => .error ⟨fault, span, input⟩

def tokenize (input : String) : Except LexError (List Token) :=
  (locateTokens input).map fun tokens => tokens.map Located.token

end Retrieval
