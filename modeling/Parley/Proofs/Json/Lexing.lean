/-
Which tokens a text has, without the machine that splits it.

`Strokes` says in how many ways the inside of a string may be written, and
`Lexed` in how many ways tokens may: with blanks wherever they do not cut a
run of word or number characters. The splitter finds exactly the tokens that
a text is lexed as (`tokens?_eq_some_iff`).
-/
import Parley.Json.Token

namespace Parley.Json

/-! ## Strings -/

/-- The number that hexadecimal digits make of one that is read so far. -/
def hexFrom (value : Nat) : List Char → Option Nat
  | [] => some value
  | c :: s => (hexDigit? c).bind fun d => hexFrom (16 * value + d) s

/-- The texts of one piece of a string. -/
inductive Stroke : List (Option Char) → Piece → Prop
  /-- A character as it is. -/
  | plain {c : Char} (hquote : c ≠ '"') (hslash : c ≠ '\\') (hcontrol : ¬ c.toNat < 0x20) :
      Stroke [some c] (.char c)
  /-- A backslash and the letter of a character. -/
  | short {letter c : Char} (h : escaped? letter = some c) :
      Stroke [some '\\', some letter] (.char c)
  /-- A code unit in four digits. -/
  | unit {digits : List Char} {value : Nat} (hlength : digits.length = 4)
      (h : hexFrom 0 digits = some value) :
      Stroke (some '\\' :: some 'u' :: digits.map some) (.unit value)
  | foreign : Stroke [none] .foreign

/-- The texts of the pieces of a string. -/
inductive Strokes : List (Option Char) → List Piece → Prop
  | nil : Strokes [] []
  | cons {u v : List (Option Char)} {p : Piece} {pieces : List Piece} (h : Stroke u p)
      (rest : Strokes v pieces) : Strokes (u ++ v) (p :: pieces)

/-! ## Tokens -/

/-- No run goes on in the text. -/
def StopsRun (s : List (Option Char)) : Prop := ∀ c, s.head? = some (some c) → isRunChar c = false

/-- `Lexed s ts`: the text `s` consists of the tokens `ts` and blanks. -/
inductive Lexed : List (Option Char) → List Token → Prop
  | nil : Lexed [] []
  | blank {c : Char} {s : List (Option Char)} {ts : List Token} (h : isSpace c = true)
      (rest : Lexed s ts) : Lexed (some c :: s) ts
  | mark {c : Char} {t : Token} {s : List (Option Char)} {ts : List Token} (h : punctuation? c = some t)
      (rest : Lexed s ts) : Lexed (some c :: s) (t :: ts)
  | string {u s : List (Option Char)} {pieces : List Piece} {ts : List Token} (h : Strokes u pieces)
      (rest : Lexed s ts) :
      Lexed (some '"' :: (u ++ some '"' :: s)) (.ofString (unquote pieces) :: ts)
  /-- A number or a word; the text behind must not continue it. -/
  | run {c : Char} {run : List Char} {t : Token} {s : List (Option Char)} {ts : List Token}
      (hrun : ∀ d ∈ c :: run, isRunChar d = true) (h : scalar? (c :: run) = some t) (stop : StopsRun s)
      (rest : Lexed s ts) : Lexed ((c :: run).map some ++ s) (t :: ts)

/-! ## The first character of a token -/

theorem punctuation?_plain {c : Char} {t : Token} (h : punctuation? c = some t) :
    isSpace c = false ∧ c ≠ '"' ∧ isRunChar c = false := by
  unfold punctuation? at h
  split at h
  all_goals first | decide | cases h

theorem isRunChar_plain {c : Char} (h : isRunChar c = true) : isSpace c = false ∧ c ≠ '"' := by
  constructor
  · cases hspace : isSpace c with
    | false => rfl
    | true =>
      simp only [isSpace, Bool.or_eq_true, decide_eq_true_eq] at hspace
      rcases hspace with ((rfl | rfl) | rfl) | rfl
      all_goals exact absurd h (by decide)
  · rintro rfl
    exact absurd h (by decide)

theorem start_blank {c : Char} (h : isSpace c = true) :
    take (some c) .nothing = some ([], .nothing) := by
  simp [take, takeChar, start, h]

theorem start_mark {c : Char} {t : Token} (h : punctuation? c = some t) :
    take (some c) .nothing = some ([t], .nothing) := by
  obtain ⟨hspace, hquote, hrun⟩ := punctuation?_plain h
  simp [take, takeChar, start, hspace, hquote, hrun, h]

theorem start_run {c : Char} (h : isRunChar c = true) :
    take (some c) .nothing = some ([], .run [c]) := by
  obtain ⟨hspace, hquote⟩ := isRunChar_plain h
  simp [take, takeChar, start, hspace, hquote, h]

theorem start_cases {c : Char} {ts : List Token} {w : Within} (h : start c = some (ts, w)) :
    (isSpace c = true ∧ ts = [] ∧ w = .nothing) ∨ (c = '"' ∧ ts = [] ∧ w = .string []) ∨
      (isRunChar c = true ∧ ts = [] ∧ w = .run [c]) ∨
      ∃ t, punctuation? c = some t ∧ ts = [t] ∧ w = .nothing := by
  unfold start at h
  split at h
  · next hspace =>
    cases h
    exact .inl ⟨hspace, rfl, rfl⟩
  split at h
  · next hquote =>
    cases h
    exact .inr (.inl ⟨hquote, rfl, rfl⟩)
  split at h
  · next hrun =>
    cases h
    exact .inr (.inr (.inl ⟨hrun, rfl, rfl⟩))
  · obtain ⟨t, ht, heq⟩ := Option.map_eq_some_iff.mp h
    cases heq
    exact .inr (.inr (.inr ⟨t, ht, rfl, rfl⟩))

/-! ## The tokens are found -/

variable {s : List (Option Char)} {ts : List Token} {read : List Piece}

theorem tokensFrom_silent {c : Option Char} {w v : Within} (h : take c w = some ([], v)) :
    tokensFrom w (c :: s) = tokensFrom v s := by
  simp only [tokensFrom, h]
  cases tokensFrom v s <;> rfl

theorem tokensFrom_token {c : Option Char} {t : Token} {w v : Within} (h : take c w = some ([t], v)) :
    tokensFrom w (c :: s) = (tokensFrom v s).map (t :: ·) := by
  simp only [tokensFrom, h]
  rfl

theorem tokensFrom_digits {digits : List Char} {count value v : Nat}
    (hcount : count + digits.length = 4) (hne : digits ≠ []) (h : hexFrom value digits = some v) :
    tokensFrom (.unit read count value) (digits.map some ++ s) =
      tokensFrom (.string (.unit v :: read)) s := by
  induction digits generalizing count value with
  | nil => exact absurd rfl hne
  | cons c digits ih =>
    rw [hexFrom] at h
    obtain ⟨d, hd, hrest⟩ := Option.bind_eq_some_iff.mp h
    have hlength : count + digits.length = 3 := by
      rw [List.length_cons] at hcount
      omega
    rw [List.map_cons, List.cons_append]
    cases digits with
    | nil =>
      -- The last of the four digits ends the code unit.
      obtain rfl : count = 3 := by simpa using hlength
      cases hrest
      exact tokensFrom_silent (by simp [take, takeChar, hd])
    | cons d' digits =>
      have hcount' : count ≠ 3 := by
        rw [List.length_cons] at hlength
        omega
      rw [tokensFrom_silent (v := .unit read (count + 1) (16 * value + d))
        (by simp [take, takeChar, hd, hcount'])]
      exact ih (by omega) (by simp) hrest

theorem tokensFrom_stroke {u : List (Option Char)} {p : Piece} (h : Stroke u p) :
    tokensFrom (.string read) (u ++ s) = tokensFrom (.string (p :: read)) s := by
  cases h with
  | plain hquote hslash hcontrol =>
    exact tokensFrom_silent (by simp [take, takeChar, hquote, hslash, hcontrol])
  | @short letter c h =>
    have hletter : letter ≠ 'u' := by
      rintro rfl
      cases h
    rw [List.cons_append, tokensFrom_silent (v := .escape read) rfl]
    exact tokensFrom_silent (by simp [take, takeChar, hletter, h])
  | @unit digits value hlength h =>
    rw [List.cons_append, List.cons_append, tokensFrom_silent (v := .escape read) rfl,
      tokensFrom_silent (v := .unit read 0 0) rfl]
    refine tokensFrom_digits (by omega) ?_ h
    rintro rfl
    cases hlength
  | foreign => exact tokensFrom_silent rfl

theorem tokensFrom_strokes {u : List (Option Char)} {pieces : List Piece} (h : Strokes u pieces) :
    tokensFrom (.string read) (u ++ some '"' :: s) =
      (tokensFrom .nothing s).map (.ofString (unquote (read.reverse ++ pieces)) :: ·) := by
  induction h generalizing read with
  | nil => rw [List.append_nil, List.nil_append, tokensFrom_token (by rfl)]
  | cons h rest ih =>
    rw [List.append_assoc, tokensFrom_stroke h, ih, List.reverse_cons, List.append_assoc]
    rfl

theorem tokensFrom_stop {run : List Char} (h : StopsRun s) :
    tokensFrom (.run run) s =
      (scalar? run.reverse).bind fun t => (tokensFrom .nothing s).map (t :: ·) := by
  cases s with
  | nil => cases h : scalar? run.reverse <;> simp [tokensFrom, finish, h]
  | cons c s =>
    cases c with
    | none => cases scalar? run.reverse <;> rfl
    | some c =>
      have hc : isRunChar c = false := h c rfl
      cases hscalar : scalar? run.reverse with
      | none => simp [tokensFrom, take, takeChar, hc, hscalar]
      | some t =>
        cases hstart : start c with
        | none => simp [tokensFrom, take, takeChar, hc, hscalar, hstart]
        | some next =>
          simp only [tokensFrom, take, takeChar, hc, hscalar, hstart, Option.bind_eq_bind]
          cases h : tokensFrom next.2 s <;> simp [h]

theorem tokensFrom_run {read run : List Char} (hrun : ∀ c ∈ run, isRunChar c = true) :
    tokensFrom (.run read) (run.map some ++ s) = tokensFrom (.run (run.reverse ++ read)) s := by
  induction run generalizing read with
  | nil => rfl
  | cons c run ih =>
    rw [List.map_cons, List.cons_append, tokensFrom_silent (v := .run (c :: read))
      (by simp [take, takeChar, hrun c List.mem_cons_self]),
      ih fun d hd => hrun d (List.mem_cons_of_mem _ hd)]
    simp

theorem Lexed.tokens? (h : Lexed s ts) : Json.tokens? s = some ts := by
  unfold Json.tokens?
  induction h with
  | nil => rfl
  | blank h _ ih => rw [tokensFrom_silent (start_blank h), ih]
  | mark h _ ih => rw [tokensFrom_token (start_mark h), ih, Option.map_some]
  | string h _ ih => rw [tokensFrom_silent (by rfl), tokensFrom_strokes h, ih, Option.map_some]; rfl
  | @run c run t s ts hrun h stop _ ih =>
    rw [List.map_cons, List.cons_append, tokensFrom_silent (start_run (hrun c List.mem_cons_self)),
      tokensFrom_run fun d hd => hrun d (List.mem_cons_of_mem _ hd), tokensFrom_stop stop, ih]
    simp [h]

/-! ## Only the tokens are found -/

/-- The text goes on inside a string of which `read` is read, and then has
more tokens. -/
def LexedString (read : List Piece) (s : List (Option Char)) (ts : List Token) : Prop :=
  ∃ u pieces rest more, Strokes u pieces ∧ s = u ++ some '"' :: rest ∧ Lexed rest more ∧
    ts = .ofString (unquote (read.reverse ++ pieces)) :: more

theorem LexedString.cons {u : List (Option Char)} {p : Piece} (hp : Stroke u p)
    (h : LexedString (p :: read) s ts) : LexedString read (u ++ s) ts := by
  obtain ⟨v, pieces, rest, more, hstrokes, rfl, hrest, rfl⟩ := h
  exact ⟨u ++ v, p :: pieces, rest, more, .cons hp hstrokes, by simp, hrest, by simp⟩

/-- The text goes on where the splitter stands, and then has more tokens. -/
def LexedFrom : Within → List (Option Char) → List Token → Prop
  | .nothing, s, ts => Lexed s ts
  | .run read, s, ts => ∃ run t rest more, (∀ c ∈ run, isRunChar c = true) ∧
      scalar? (read.reverse ++ run) = some t ∧ StopsRun rest ∧ s = run.map some ++ rest ∧
      Lexed rest more ∧ ts = t :: more
  | .string read, s, ts => LexedString read s ts
  | .escape read, s, ts => ∃ u p rest, Stroke (some '\\' :: u) p ∧ s = u ++ rest ∧
      LexedString (p :: read) rest ts
  | .unit read count value, s, ts => ∃ digits v rest, count + digits.length = 4 ∧
      hexFrom value digits = some v ∧ s = digits.map some ++ rest ∧
      LexedString (.unit v :: read) rest ts

theorem lexed_of_start {c : Char} {first : List Token} {w : Within}
    (hstart : start c = some (first, w)) (h : LexedFrom w s ts) : Lexed (some c :: s) (first ++ ts) := by
  obtain ⟨hspace, rfl, rfl⟩ | ⟨rfl, rfl, rfl⟩ | ⟨hc, rfl, rfl⟩ | ⟨t, ht, rfl, rfl⟩ := start_cases hstart
  · exact .blank hspace h
  · obtain ⟨u, pieces, rest, more, hstrokes, rfl, hrest, rfl⟩ := h
    exact .string hstrokes hrest
  · obtain ⟨run, t, rest, more, hrun, hscalar, hstop, rfl, hrest, rfl⟩ := h
    exact .run (List.forall_mem_cons.mpr ⟨hc, hrun⟩) hscalar hstop hrest
  · exact .mark ht h

theorem lexedFrom_cons {c : Option Char} {first : List Token} {w w' : Within}
    (htake : take c w = some (first, w')) (h : LexedFrom w' s ts) :
    LexedFrom w (c :: s) (first ++ ts) := by
  cases c with
  | none =>
    cases w with
    | string read =>
      cases htake
      exact LexedString.cons .foreign h
    | _ => cases htake
  | some c =>
    simp only [take, takeChar] at htake
    cases w with
    | nothing => exact lexed_of_start htake h
    | run read =>
      simp only at htake
      split at htake
      · next hc =>
        cases htake
        obtain ⟨run, t, rest, more, hrun, hscalar, hstop, rfl, hrest, rfl⟩ := h
        exact ⟨c :: run, t, rest, more, List.forall_mem_cons.mpr ⟨hc, hrun⟩, by simpa using hscalar, hstop,
          rfl, hrest, rfl⟩
      · next hc =>
        -- The character is not of the run: it begins something new.
        obtain ⟨t, ht, htake⟩ := Option.bind_eq_some_iff.mp htake
        obtain ⟨⟨more, w''⟩, hstart, heq⟩ := Option.bind_eq_some_iff.mp htake
        cases heq
        refine ⟨[], t, some c :: s, more ++ ts, nofun, by simpa using ht, ?_, rfl,
          lexed_of_start hstart h, rfl⟩
        rintro d ⟨⟩
        exact Bool.not_eq_true _ ▸ hc
    | string read =>
      simp only at htake
      split at htake
      · next hquote =>
        cases htake
        exact ⟨[], [], s, ts, .nil, by rw [hquote]; rfl, h, by simp⟩
      split at htake
      · next hslash =>
        cases htake
        obtain ⟨u, p, rest, hp, rfl, hrest⟩ := h
        rw [hslash]
        exact LexedString.cons hp hrest
      split at htake
      · cases htake
      · next hquote hslash hcontrol =>
        cases htake
        exact LexedString.cons (.plain hquote hslash hcontrol) h
    | escape read =>
      simp only at htake
      split at htake
      · next hu =>
        cases htake
        obtain ⟨digits, v, rest, hlength, hv, rfl, hrest⟩ := h
        exact ⟨some 'u' :: digits.map some, .unit v, rest, .unit (by omega) hv, by rw [hu]; rfl, hrest⟩
      · obtain ⟨e, he, heq⟩ := Option.map_eq_some_iff.mp htake
        cases heq
        exact ⟨[some c], .char e, s, .short he, rfl, h⟩
    | unit read count value =>
      obtain ⟨d, hd, heq⟩ := Option.bind_eq_some_iff.mp htake
      simp only [Option.pure_def, Option.some.injEq, Prod.mk.injEq] at heq
      obtain ⟨rfl, rfl⟩ := heq
      split at h
      · next hcount =>
        exact ⟨[c], 16 * value + d, s, by simp [hcount], by simp [hexFrom, hd], rfl, h⟩
      · obtain ⟨digits, v, rest, hlength, hv, rfl, hrest⟩ := h
        refine ⟨c :: digits, v, rest, ?_, by simp [hexFrom, hd, hv], rfl, hrest⟩
        rw [List.length_cons]
        omega

theorem lexedFrom_of_tokensFrom {w : Within} (h : tokensFrom w s = some ts) :
    LexedFrom w s ts := by
  induction s generalizing w ts with
  | nil =>
    cases w with
    | nothing =>
      cases h
      exact .nil
    | run read =>
      obtain ⟨t, ht, rfl⟩ := Option.map_eq_some_iff.mp h
      exact ⟨[], t, [], [], nofun, by simpa using ht, nofun, rfl, .nil, rfl⟩
    | _ => cases h
  | cons c s ih =>
    rw [tokensFrom] at h
    split at h
    · cases h
    · next first w' htake =>
      obtain ⟨more, hmore, rfl⟩ := Option.map_eq_some_iff.mp h
      exact lexedFrom_cons htake (ih hmore)

/-- **The splitter finds the tokens that a text is lexed as, and no others.** -/
theorem tokens?_eq_some_iff : tokens? s = some ts ↔ Lexed s ts :=
  ⟨lexedFrom_of_tokensFrom (w := .nothing), Lexed.tokens?⟩

end Parley.Json
