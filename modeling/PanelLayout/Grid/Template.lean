import PanelLayout.Text.Fold
import PanelLayout.Number.Numeral

/-!
Track templates as texts: tokens at the top level of parentheses, the repetition of tokens, the
shorthand for rows and columns, and the named areas.
-/
namespace PanelLayout.Template

/-- Splits the rest of a template into tokens, where `depth` parentheses are open and the characters
of the current token, if there is one, come last one first. A closing parenthesis begins no token. -/
def topLevelFrom (depth : Nat) (token : Option (List Char)) : List Char → List (List Char)
  | [] => token.toList.map List.reverse
  | c :: s =>
    if c = '(' then topLevelFrom (depth + 1) (some (c :: token.getD [])) s
    else if c = ')' then topLevelFrom (depth - 1) (token.map (c :: ·)) s
    else if Text.isBlank c ∧ depth = 0 then
      token.toList.map List.reverse ++ topLevelFrom depth none s
    else topLevelFrom depth (some (c :: token.getD [])) s

def topLevel (s : List Char) : List (List Char) :=
  topLevelFrom 0 none s

def commaPieces (depth : Nat) : List Char → List (List Char)
  | [] => [[]]
  | c :: s =>
    if c = ',' ∧ depth = 0 then [] :: commaPieces depth s
    else
      let depth := if c = '(' then depth + 1 else if c = ')' then depth - 1 else depth
      match commaPieces depth s with
      | [] => [[c]]
      | w :: ws => (c :: w) :: ws

def arguments (s : List Char) : List (List Char) :=
  (commaPieces 0 s).map Text.trim

def callOf? (name : String) (token : List Char) : Option (List Char) :=
  match Text.splitOnce '(' token with
  | none => none
  | some (head, rest) =>
    if Text.isWord name (Text.trim head) ∧ rest.getLast? = some ')' then some rest.dropLast
    else none

def maxRepeat : Nat := 1000

def maxTokens : Nat := 10000

def natural? (s : List Char) : Option Nat :=
  match Numeral.scanSign s with
  | (true, _) => none
  | (false, r) =>
    match Numeral.scanDigits r with
    | ([], _) => none
    | (ds, []) => if ofDigits ds < UInt64.size then some (ofDigits ds) else none
    | _ => none

def repeatCount (s : List Char) : Nat :=
  max 1 (min ((natural? s).getD 1) maxRepeat)

/-- The tokens that a token stands for. Repetitions inside a repetition are not expanded. -/
def expand (token : List Char) : List (List Char) :=
  match callOf? "repeat" token with
  | none => [token]
  | some s =>
    match arguments s with
    | [] => []
    | count :: parts => (List.replicate (repeatCount count) (parts.flatMap topLevel)).flatten

def tokens (s : List Char) : List (List Char) :=
  ((topLevel s).flatMap expand).take maxTokens

/-- The tokens that come from a list of tokens while there is room for them: it is left where it is
full, inside a repetition or before the next token. -/
def collect (room : Nat) : List (List Char) → List (List Char)
  | [] => []
  | token :: rest =>
    if room = 0 then []
    else
      let new := (expand token).take room
      new ++ collect (room - new.length) rest

theorem collect_eq_take (room : Nat) (l : List (List Char)) :
    collect room l = (l.flatMap expand).take room := by
  induction l generalizing room with
  | nil => rw [collect, List.flatMap_nil, List.take_nil]
  | cons token rest ih =>
    rw [collect, List.flatMap_cons, List.take_append]
    by_cases hroom : room = 0
    · rw [if_pos hroom, hroom]
      simp
    · simp only [if_neg hroom, ih, List.length_take]
      congr 2
      omega

/-- The tokens are those that are collected while there is room for `maxTokens`. -/
theorem tokens_eq_collect (s : List Char) : tokens s = collect maxTokens (topLevel s) :=
  (collect_eq_take maxTokens (topLevel s)).symm

def nonblank? (s : List Char) : Option (List Char) :=
  if (Text.trim s).isEmpty then none else some (Text.trim s)

def shorthand (s : List Char) : Option (List Char) × Option (List Char) :=
  match Text.splitOnce '/' s with
  | some (rows, columns) => (nonblank? rows, nonblank? columns)
  | none => (nonblank? s, none)

def everySecond {α : Type} : List α → List α
  | _ :: a :: as => a :: everySecond as
  | _ => []

def isQuote (c : Char) : Bool :=
  c = '"' || c = '\''

/-- The rows of cell names between quotes. A text without quotes is one row; rows without names are
left out. -/
def areas (s : List Char) : List (List String) :=
  let rows := if s.any isQuote then everySecond (Text.split isQuote s) else [s]
  (rows.map fun row => (Text.words row).map String.ofList).filter fun row => !row.isEmpty

theorem length_commaPieces {depth : Nat} {s w : List Char} (h : w ∈ commaPieces depth s) :
    w.length ≤ s.length := by
  induction s generalizing depth w with
  | nil => simp_all [commaPieces]
  | cons c s ih =>
    simp only [commaPieces] at h
    split at h
    · rcases List.mem_cons.1 h with rfl | h
      · simp
      · exact Nat.le_succ_of_le (ih h)
    · split at h
      · simp only [List.mem_singleton] at h
        simp [h]
      · rename_i v vs hv
        rcases List.mem_cons.1 h with rfl | h
        · exact Nat.succ_le_succ (ih (hv ▸ List.mem_cons_self))
        · exact Nat.le_succ_of_le (ih (hv ▸ List.mem_cons_of_mem _ h))

theorem length_arguments {s w : List Char} (h : w ∈ arguments s) : w.length ≤ s.length := by
  obtain ⟨v, hv, rfl⟩ := List.mem_map.1 h
  exact Nat.le_trans (Text.length_trim_le v) (length_commaPieces hv)

theorem length_callOf? {name : String} {token s : List Char} (h : callOf? name token = some s) :
    s.length < token.length := by
  simp only [callOf?] at h
  split at h
  · simp at h
  · rename_i head rest hr
    split at h
    · cases h
      exact Nat.lt_of_le_of_lt (by simp) (Text.splitOnce_length hr)
    · simp at h

end PanelLayout.Template
