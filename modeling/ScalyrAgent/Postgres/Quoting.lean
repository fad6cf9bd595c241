import ScalyrAgent.Postgres.Db

/-!
# The name in the statements, read back as PostgreSQL reads it

`PostgreSQLDb` puts the configured database name into its three statements by `%` formatting,
between two single quotes, with nothing escaped.  PostgreSQL reads a string constant from a
quote to the next quote that is not doubled, and reads `''` inside it as one quote.

`lex` is that rule as a scanner over the characters of a statement: outside a constant it
collects text, inside it collects the characters of the constant, and after a quote inside a
constant it decides between `''` and the end of the constant.  It rejects a statement that
ends inside a constant.  `render` writes the pieces back, doubling the quotes of each constant,
and `render_lex` says that the scanner loses nothing: the pieces it reads render to the input.

`lex_quoted` is the result for the statements: the text around the name and one constant whose
value is the name, exactly when the name has no quote.  A name with a quote ends the constant
early, and what follows it is read as SQL.
-/

namespace ScalyrAgent.Postgres

/-- A piece of a statement: text outside string constants, or the value of one constant. -/
inductive Piece where
  | text (s : List Char)
  | literal (s : List Char)
  deriving DecidableEq, Repr

/-- Where the scanner is: in text, in a constant, or just after a quote in a constant. -/
inductive LexMode where
  | code
  | literal
  | quote
  deriving DecidableEq, Repr

/-- The text collected so far, as a piece unless it is empty. -/
def textPiece (acc : List Char) : List Piece :=
  if acc = [] then [] else [.text acc]

/-- PostgreSQL's reading of string constants, one character at a time; `acc` is the text or the
value collected since the last piece. -/
def lex : LexMode → List Char → List Char → Option (List Piece)
  | .code, acc, [] => some (textPiece acc)
  | .literal, _, [] => none
  | .quote, acc, [] => some [.literal acc]
  | .code, acc, '\'' :: rest => (lex .literal [] rest).map (textPiece acc ++ ·)
  | .code, acc, c :: rest => lex .code (acc ++ [c]) rest
  | .literal, acc, '\'' :: rest => lex .quote acc rest
  | .literal, acc, c :: rest => lex .literal (acc ++ [c]) rest
  | .quote, acc, '\'' :: rest => lex .literal (acc ++ ['\'']) rest
  | .quote, acc, c :: rest => (lex .code [c] rest).map (.literal acc :: ·)

/-- The statement text of a constant's value: each quote doubled. -/
def escape : List Char → List Char
  | [] => []
  | '\'' :: s => '\'' :: '\'' :: escape s
  | c :: s => c :: escape s

/-- The statement the pieces are read from. -/
def render : List Piece → List Char
  | [] => []
  | .text s :: ps => s ++ render ps
  | .literal s :: ps => '\'' :: escape s ++ '\'' :: render ps

/-- The text of the statement that the scanner has consumed into its state. -/
def LexMode.consumed : LexMode → List Char → List Char
  | .code, acc => acc
  | .literal, acc => '\'' :: escape acc
  | .quote, acc => '\'' :: escape acc ++ ['\'']

theorem escape_append (s t : List Char) : escape (s ++ t) = escape s ++ escape t := by
  induction s with
  | nil => rfl
  | cons c s ih => by_cases hc : c = '\'' <;> simp [escape, hc, ih]

theorem render_textPiece (acc : List Char) (ps : List Piece) :
    render (textPiece acc ++ ps) = acc ++ render ps := by
  unfold textPiece; split <;> simp_all [render]

/-- The scanner loses nothing: what it reads renders to the text it consumed. -/
theorem render_lex (m : LexMode) (acc cs : List Char) (ps : List Piece)
    (h : lex m acc cs = some ps) : render ps = m.consumed acc ++ cs := by
  induction m, acc, cs using lex.induct generalizing ps with
  | case1 acc =>
    simp only [lex, Option.some.injEq] at h; subst h
    simpa [render, LexMode.consumed] using render_textPiece acc []
  | case2 => simp [lex] at h
  | case3 acc =>
    simp only [lex, Option.some.injEq] at h; subst h
    simp [render, LexMode.consumed]
  | case4 acc rest ih =>
    obtain ⟨ps', h', rfl⟩ := Option.map_eq_some'.1 h
    simp [render_textPiece, ih ps' h', LexMode.consumed, escape]
  | case5 acc c rest hc ih =>
    rw [lex.eq_5 acc c rest hc] at h
    simpa [LexMode.consumed] using ih ps h
  | case6 acc rest ih => simpa [LexMode.consumed] using ih ps h
  | case7 acc c rest hc ih =>
    rw [lex.eq_7 acc c rest hc] at h
    simpa [LexMode.consumed, escape_append, escape, hc] using ih ps h
  | case8 acc rest ih => simpa [LexMode.consumed, escape_append, escape] using ih ps h
  | case9 acc c rest hc ih =>
    rw [lex.eq_9 acc c rest hc] at h
    obtain ⟨ps', h', rfl⟩ := Option.map_eq_some'.1 h
    simp [render, ih ps' h', LexMode.consumed]

theorem length_escape (s : List Char) : (escape s).length = s.length + s.count '\'' := by
  induction s with
  | nil => rfl
  | cons c s ih => by_cases hc : c = '\'' <;> simp [escape, hc, ih, List.count_cons] <;> omega

/-- A value whose escaped text is itself has no quote. -/
theorem not_mem_of_escape_eq {s : List Char} (h : escape s = s) : '\'' ∉ s := by
  have hl := congrArg List.length h
  rw [length_escape] at hl
  exact List.count_eq_zero.1 (by omega)

/-- Quote-free text is collected as it is, in text or in a constant. -/
theorem lex_append {m : LexMode} (hm : m ≠ .quote) {s : List Char} (hs : '\'' ∉ s) (acc rest : List Char) :
    lex m acc (s ++ rest) = lex m (acc ++ s) rest := by
  induction s generalizing acc with
  | nil => simp
  | cons c s ih =>
    have hc : c ≠ '\'' := fun h => hs (h ▸ List.mem_cons_self _ _)
    have ih' := ih (fun h => hs (List.mem_cons_of_mem _ h)) (acc ++ [c])
    cases m with
    | code => rw [List.cons_append, lex.eq_5 acc c _ hc, ih', List.append_assoc]; rfl
    | literal => rw [List.cons_append, lex.eq_7 acc c _ hc, ih', List.append_assoc]; rfl
    | quote => exact absurd rfl hm

/-- A statement `pre'n'suf` with quote-free `pre` and `suf`, and `suf` not empty, reads as the
text `pre`, one constant and the text `suf` exactly when `n` has no quote. -/
theorem lex_quoted {pre n suf : List Char} (hpre : '\'' ∉ pre) (hsuf : '\'' ∉ suf)
    (hne : suf ≠ []) :
    lex .code [] (pre ++ '\'' :: (n ++ '\'' :: suf)) = some (textPiece pre ++ [.literal n, .text suf]) ↔
      '\'' ∉ n := by
  constructor
  · intro h
    have hr := render_lex _ _ _ _ h
    simp only [render_textPiece, render, LexMode.consumed, List.nil_append, List.append_nil,
      List.append_cancel_left_eq, List.cons.injEq, true_and, List.cons_append] at hr
    exact not_mem_of_escape_eq (List.append_cancel_right hr)
  · intro hn
    obtain ⟨c, suf', rfl⟩ := List.exists_cons_of_ne_nil hne
    have hc : c ≠ '\'' := fun h => hsuf (h ▸ List.mem_cons_self _ _)
    rw [lex_append (by simp) hpre, List.nil_append, lex.eq_4, lex_append (by simp) hn,
      List.nil_append, lex.eq_6, lex.eq_9 _ _ _ hc, ← List.append_nil suf',
      lex_append (by simp) (fun h => hsuf (List.mem_cons_of_mem _ h))]
    simp [lex, textPiece]

theorem fieldsQuery_data (t n : String) :
    (fieldsQuery t n).data =
      ("select * from " ++ t ++ " where datname = ").data ++ '\'' :: (n.data ++ '\'' :: " limit 0;".data) := by
  simp only [fieldsQuery, String.data_append, List.append_assoc]
  rfl

theorem statsQuery_data (t n : String) :
    (statsQuery t n).data =
      ("select * from " ++ t ++ " where datname = ").data ++ '\'' :: (n.data ++ '\'' :: ";".data) := by
  simp only [statsQuery, String.data_append, List.append_assoc]
  rfl

theorem sizeQuery_data (n : String) :
    (sizeQuery n).data = "select pg_database_size(".data ++ '\'' :: (n.data ++ '\'' :: ");".data) := by
  simp only [sizeQuery, String.data_append, List.append_assoc]
  rfl

/-- Each statement `PostgreSQLDb` builds around the database name `n` reads as its text, one
string constant with the value `n`, and its text again, exactly when `n` has no quote. -/
theorem statements_quote_name (n : String) :
    (lex .code [] (fieldsQuery "pg_stat_database" n).data =
        some [.text "select * from pg_stat_database where datname = ".data, .literal n.data,
          .text " limit 0;".data] ↔ '\'' ∉ n.data) ∧
    (lex .code [] (statsQuery "pg_stat_database" n).data =
        some [.text "select * from pg_stat_database where datname = ".data, .literal n.data,
          .text ";".data] ↔ '\'' ∉ n.data) ∧
    (lex .code [] (sizeQuery n).data =
        some [.text "select pg_database_size(".data, .literal n.data, .text ");".data] ↔
      '\'' ∉ n.data) := by
  refine ⟨?_, ?_, ?_⟩
  · rw [fieldsQuery_data]; exact lex_quoted (by decide) (by decide) (by decide)
  · rw [statsQuery_data]; exact lex_quoted (by decide) (by decide) (by decide)
  · rw [sizeQuery_data]; exact lex_quoted (by decide) (by decide) (by decide)

/-- A database name with two quotes in it. -/
def injectedName : String :=
  "db" ++ String.singleton '\'' ++ " or datname = " ++ String.singleton '\'' ++ "x"

/-- With `injectedName` the column statement reads as two constants, `db` and `x`, with the
rest of the name between them read as SQL. -/
theorem fieldsQuery_injectedName :
    lex .code [] (fieldsQuery "pg_stat_database" injectedName).data =
      some [.text "select * from pg_stat_database where datname = ".data, .literal "db".data,
        .text " or datname = ".data, .literal "x".data, .text " limit 0;".data] := by
  decide

end ScalyrAgent.Postgres
