import SqlDesk.Sql.Metadata

/-!
# Tokens of a statement

How the server cuts a statement into tokens in its default mode: a backslash escapes the next
character of a string, a doubled quote stands for itself, and double quotes enclose strings. The
lexer is a machine that takes one character at a time, so that `scan_append` tells where it resumes.
Words that introduce a string and comments that hold statements are not read but refused.
-/

namespace SqlDesk.Sql

/-- A token of a statement. -/
inductive Token where
  | word (s : String)
  | symbol (c : Char)
  | identifier (s : String)
  | text (s : String)
deriving DecidableEq, Repr

/-- A kind of quotes. -/
inductive Quote where
  | backtick
  | single
  | double
deriving DecidableEq, Repr

namespace Quote

/-- The character that opens and closes the quotes. -/
def mark : Quote → Char
  | .backtick => '\x60'
  | .single => '\''
  | .double => '"'

/-- The token of a quoted text. -/
def token : Quote → List Char → Token
  | .backtick, cs => .identifier (String.ofList cs)
  | .single, cs | .double, cs => .text (String.ofList cs)

end Quote

/-- Where the lexer is, with the text of the token that it is in. -/
inductive Mode where
  | blank
  | word (cs : List Char)
  | inside (q : Quote) (cs : List Char)
  /-- Behind a backslash in quotes. -/
  | escaped (q : Quote) (cs : List Char)
  /-- Behind a quote that closes the token, unless another one follows. -/
  | closed (q : Quote) (cs : List Char)
  | dash
  | dashes
  | lineComment
  | slash
  | opened
  | blockComment
  | star
  | refused
deriving DecidableEq, Repr

def isBlank (c : Char) : Bool :=
  c == ' ' || c == '\t' || c == '\n' || c == '\x0b' || c == '\x0c' || c == '\r'

def isWordChar (c : Char) : Bool :=
  c.isAlphanum || c == '$' || c == '_' || 0x80 ≤ c.toNat

/-- What a character behind a backslash stands for. The wildcards of LIKE keep the backslash. -/
def unescape (c : Char) : List Char :=
  if c = '0' then ['\x00']
  else if c = 'b' then ['\x08']
  else if c = 'n' then ['\n']
  else if c = 'r' then ['\r']
  else if c = 't' then ['\t']
  else if c = 'Z' then ['\x1a']
  else if c = '%' ∨ c = '_' then ['\\', c]
  else [c]

/-- The first character of a token, or one between tokens. -/
def start (c : Char) : List Token × Mode :=
  if isBlank c then ([], .blank)
  else if isWordChar c then ([], .word [c])
  else if c = '\x60' then ([], .inside .backtick [])
  else if c = '\'' then ([], .inside .single [])
  else if c = '"' then ([], .inside .double [])
  else if c = '#' then ([], .lineComment)
  else if c = '-' then ([], .dash)
  else if c = '/' then ([], .slash)
  else ([.symbol c], .blank)

/-- A character that ends the tokens before it. -/
def startAfter (ts : List Token) (c : Char) : List Token × Mode :=
  (ts ++ (start c).1, (start c).2)

/-- The tokens that a character completes, and the mode after it. -/
def step : Mode → Char → List Token × Mode
  | .blank, c => start c
  | .word cs, c =>
    if isWordChar c then ([], .word (cs ++ [c]))
    else if c = '\'' ∨ c = '"' then ([], .refused)
    else startAfter [.word (String.ofList cs)] c
  | .inside q cs, c =>
    if c = q.mark then ([], .closed q cs)
    else if c = '\\' ∧ q ≠ .backtick then ([], .escaped q cs)
    else ([], .inside q (cs ++ [c]))
  | .escaped q cs, c => ([], .inside q (cs ++ unescape c))
  | .closed q cs, c =>
    if c = q.mark then ([], .inside q (cs ++ [c])) else startAfter [q.token cs] c
  | .dash, c => if c = '-' then ([], .dashes) else startAfter [.symbol '-'] c
  | .dashes, c =>
    if isBlank c then ([], .lineComment) else startAfter [.symbol '-', .symbol '-'] c
  | .lineComment, c => ([], if c = '\n' then .blank else .lineComment)
  | .slash, c => if c = '*' then ([], .opened) else startAfter [.symbol '/'] c
  | .opened, c =>
    ([], if c = '!' ∨ c = '+' then .refused else if c = '*' then .star else .blockComment)
  | .blockComment, c => ([], if c = '*' then .star else .blockComment)
  | .star, c => ([], if c = '/' then .blank else if c = '*' then .star else .blockComment)
  | .refused, _ => ([], .refused)

/-- The tokens that are complete behind a text, and the mode there. -/
def scan : Mode → List Char → List Token × Mode
  | m, [] => ([], m)
  | m, c :: cs => ((step m c).1 ++ (scan (step m c).2 cs).1, (scan (step m c).2 cs).2)

/-- The tokens that the end of a statement completes, if it may end there. -/
def finish : Mode → Option (List Token)
  | .blank | .dashes | .lineComment => some []
  | .word cs => some [.word (String.ofList cs)]
  | .closed q cs => some [q.token cs]
  | .dash => some [.symbol '-']
  | .slash => some [.symbol '/']
  | .inside .. | .escaped .. | .opened | .blockComment | .star | .refused => none

/-- The tokens of the rest of a statement, if it may end as it does. -/
def read (m : Mode) (cs : List Char) : Option (List Token) :=
  (finish (scan m cs).2).map ((scan m cs).1 ++ ·)

/-- The tokens of a statement. -/
def lex (sql : String) : Option (List Token) := read .blank sql.toList

theorem scan_append (m : Mode) (cs ds : List Char) :
    scan m (cs ++ ds) =
      ((scan m cs).1 ++ (scan (scan m cs).2 ds).1, (scan (scan m cs).2 ds).2) := by
  induction cs generalizing m with
  | nil => rfl
  | cons c cs ih => simp only [List.cons_append, scan, ih, List.append_assoc]

/-- The lexer resumes behind a part of a statement in the mode that the part leaves it in. -/
theorem read_append {m m' : Mode} {cs : List Char} {ts : List Token} (h : scan m cs = (ts, m'))
    (ds : List Char) : read m (cs ++ ds) = (read m' ds).map (ts ++ ·) := by
  unfold read
  rw [scan_append, h, Option.map_map]
  exact congrArg (Option.map · _) (funext fun us => List.append_assoc ..)

/-- A text that starts with no quotation mark. -/
def startsPlain : List Char → Bool
  | [] => true
  | c :: _ => c != '\x60' && c != '\'' && c != '"'

/-- Behind a closing quote any other character ends the token and is read as if it came first. -/
theorem read_closed {cs : List Char} (h : startsPlain cs = true) (q : Quote) (name : List Char) :
    read (.closed q name) cs = (read .blank cs).map (q.token name :: ·) := by
  rcases cs with _ | ⟨c, cs⟩
  · rfl
  · have hc : c ≠ q.mark := by
      cases q <;> simp_all [startsPlain, Quote.mark]
    simp [read, scan, step, startAfter, hc, Function.comp_def]

/-! ## Identifiers -/

theorem scan_doubleBackticks (name cs : List Char) :
    scan (.inside .backtick cs) (doubleBackticks name) = ([], .inside .backtick (cs ++ name)) := by
  induction name generalizing cs with
  | nil => simp [doubleBackticks, scan]
  | cons c name ih =>
    by_cases hc : c = '\x60'
    · simp [doubleBackticks, scan, step, Quote.mark, hc, ih]
    · simp [doubleBackticks, scan, step, Quote.mark, hc, ih]

theorem scan_backquote (name : String) :
    scan .blank (backquote name).toList = ([], .closed .backtick name.toList) := by
  have hopen : step .blank '\x60' = ([], .inside .backtick []) := by decide
  rw [backquote, String.toList_ofList, backquoteList, scan, hopen, scan_append,
    scan_doubleBackticks]
  simp [scan, step, Quote.mark]

/-! ## Literals -/

/-- Escaping is faithful if the lexer reads every text back between single quotes and is still
between them at its end. -/
def Faithful (escape : String → String) : Prop :=
  ∀ text, scan (.inside .single []) (escape text).toList = ([], .inside .single text.toList)

theorem Faithful.injective {escape : String → String} (h : Faithful escape) :
    Function.Injective escape := by
  intro text text' heq
  have hscan := h text
  rw [heq, h text'] at hscan
  exact String.toList_inj.mp (Mode.inside.inj (Prod.mk.inj hscan).2).2.symm

/-- A character that neither closes the quotes nor escapes another one stands for itself. -/
theorem scan_plain {c : Char} (hquote : c ≠ '\'') (hslash : c ≠ '\\') (cs : List Char) :
    scan (.inside .single cs) [c] = ([], .inside .single (cs ++ [c])) := by
  simp [scan, step, Quote.mark, hquote, hslash]

/-- A text without quotes and backslashes stands for itself. -/
theorem scan_plainText {text : List Char} (h : ∀ c ∈ text, c ≠ '\'' ∧ c ≠ '\\') (cs : List Char) :
    scan (.inside .single cs) text = ([], .inside .single (cs ++ text)) := by
  induction text generalizing cs with
  | nil => simp [scan]
  | cons c text ih =>
    obtain ⟨hquote, hslash⟩ := h c List.mem_cons_self
    have hrest := ih (fun d hd => h d (List.mem_cons_of_mem _ hd)) (cs ++ [c])
    rw [← List.singleton_append, scan_append, scan_plain hquote hslash, hrest, List.append_assoc]
    rfl

theorem scan_flatMap {escapeChar : Char → List Char}
    (h : ∀ c cs, scan (.inside .single cs) (escapeChar c) = ([], .inside .single (cs ++ [c])))
    (text cs : List Char) :
    scan (.inside .single cs) (text.flatMap escapeChar) = ([], .inside .single (cs ++ text)) := by
  induction text generalizing cs with
  | nil => simp [scan]
  | cons c text ih => simp [scan_append, h, ih]

/-- Escaping character by character is faithful if every character is read back. -/
theorem faithful_flatMap {escapeChar : Char → List Char}
    (h : ∀ c cs, scan (.inside .single cs) (escapeChar c) = ([], .inside .single (cs ++ [c]))) :
    Faithful fun text => String.ofList (text.toList.flatMap escapeChar) := by
  intro text
  rw [String.toList_ofList]
  exact scan_flatMap h text.toList []

/-- A text between single quotes. -/
def quoted (escape : String → String) (text : String) : String := "'" ++ escape text ++ "'"

theorem scan_close (cs : List Char) :
    scan (.inside .single cs) ['\''] = ([], .closed .single cs) := by
  simp [scan, step, Quote.mark]

theorem Faithful.scan_quoted {escape : String → String} (h : Faithful escape) (text : String) :
    scan .blank (quoted escape text).toList = ([], .closed .single text.toList) := by
  have hopen : step .blank '\'' = ([], .inside .single []) := by decide
  have hquote : "'".toList = ['\''] := rfl
  rw [quoted, String.toList_append, String.toList_append, hquote, List.singleton_append,
    List.cons_append, scan, hopen, scan_append, h text, scan_close]
  rfl

end SqlDesk.Sql
