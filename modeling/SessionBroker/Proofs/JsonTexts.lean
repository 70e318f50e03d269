import Mathlib.Data.List.TakeWhile
import Mathlib.Tactic.ByContra
import SessionBroker.Json.Printer
import SessionBroker.Json.Reader
import SessionBroker.Proofs.Hexadecimals

/-!
# SessionBroker.Proofs.JsonTexts — JSON that was printed is read as what it was

Both ways of printing write the same tokens, with other white space in between.

* `Quoted.closed_encode`, `Quoted.decode?_encode`: a text that was escaped ends at the closing quote, and denotes what it
  was made of.
* `Json.Written`: values whose numbers and strings are as a text can hold them.
* `Json.tokens`: the tokens of a value; `ofTokens?_tokens`: the reader makes the value of them.
* `Token.Spells ts cs`: the text `cs` is read as the tokens `ts`, where no letter or digit follows.
* `parse?_compact`, `parse?_pretty`: so printing in either way and reading leads back.
-/

namespace SessionBroker.Json

/-! ### Strings -/

namespace Quoted

theorem hexDigits_four (n : Nat) : Text.hexDigits 4 n =
    [Nat.digitChar (n / 16 / 16 / 16 % 16), Nat.digitChar (n / 16 / 16 % 16), Nat.digitChar (n / 16 % 16),
      Nat.digitChar (n % 16)] := rfl

/-- The hexadecimal digits of a control character denote it. -/
theorem unit?_hexDigits {n : Nat} (h : n < 32) : unit? (Nat.digitChar (n / 16 / 16 / 16 % 16))
    (Nat.digitChar (n / 16 / 16 % 16)) (Nat.digitChar (n / 16 % 16)) (Nat.digitChar (n % 16)) = some n := by
  rw [unit?, ← hexDigits_four]
  exact Text.hexNumber?_hexDigits (by omega)

theorem scan_cons {c : Char} (hquote : c ≠ '"') (hslash : c ≠ '\\') (cs : List Char) :
    scan (c :: cs) = if c.toNat < 32 then none else (scan cs).map fun r => (c :: r.1, r.2) := by
  rw [scan.eq_def]
  split <;> simp_all

theorem decodeFrom_cons {c : Char} (hslash : c ≠ '\\') (cs : List Char) :
    decodeFrom none (c :: cs) = (decodeFrom none cs).map (c :: ·) := by
  rw [decodeFrom.eq_def]
  split <;> simp_all

theorem scan_encodeChar (c : Char) (cs : List Char) :
    scan (encodeChar c ++ cs) = (scan cs).map fun r => (encodeChar c ++ r.1, r.2) := by
  unfold encodeChar
  split
  iterate 7 rfl
  · rename_i hquote hslash _ _ _ _ _
    split
    · rename_i hcontrol
      rw [hexDigits_four]
      simp only [List.cons_append, List.nil_append, scan, unit?_hexDigits hcontrol]
    · rename_i hplain
      rw [List.singleton_append, scan_cons hquote hslash, if_neg hplain]
      rfl

theorem decodeFrom_encodeChar (c : Char) (cs : List Char) :
    decodeFrom none (encodeChar c ++ cs) = (decodeFrom none cs).map (c :: ·) := by
  unfold encodeChar
  split
  iterate 7 rfl
  · rename_i hquote hslash _ _ _ _ _
    split
    · rename_i hcontrol
      have hhigh : isHigh c.toNat = false := by
        have : ¬0xD800 ≤ c.toNat := by omega
        simp [isHigh, this]
      have hlow : isLow c.toNat = false := by
        have : ¬0xDC00 ≤ c.toNat := by omega
        simp [isLow, this]
      rw [hexDigits_four]
      simp [decodeFrom, unit?_hexDigits hcontrol, hhigh, hlow]
    · rw [List.singleton_append, decodeFrom_cons hslash]

/-- A raw text that ends where the closing quote is. -/
def Closed (raw : List Char) : Prop := ∀ rest, scan (raw ++ '"' :: rest) = some (raw, rest)

/-- What was escaped is closed by a quote. -/
theorem closed_encode (cs : List Char) : Closed (encode cs) := by
  intro rest
  unfold encode
  induction cs with
  | nil => rfl
  | cons c cs ih =>
    rw [List.flatMap_cons, List.append_assoc, scan_encodeChar, ih]
    rfl

/-- What was escaped denotes what it was made of. -/
theorem decode?_encode (cs : List Char) : decode? (encode cs) = some cs := by
  unfold decode? encode
  induction cs with
  | nil => rfl
  | cons c cs ih =>
    rw [List.flatMap_cons, decodeFrom_encodeChar, ih]
    rfl

end Quoted

/-! ### Values that texts can hold -/

/-- The numbers and strings of a value are as a text can hold them. -/
inductive Written : Json → Prop
  | null : Written .null
  | bool (b : Bool) : Written (.bool b)
  | number {raw : List Char} :
      Token.isNumber raw = true → (∀ c ∈ raw, Token.isNumeric c = true) → Written (.number raw)
  | string {raw : List Char} : Quoted.Closed raw → Written (.string raw)
  | list {items : List Json} : (∀ v ∈ items, Written v) → Written (.list items)
  | object {members : List (List Char × Json)} :
      (∀ m ∈ members, Quoted.Closed m.1) → (∀ m ∈ members, Written m.2) → Written (.object members)

mutual

/-- The tokens of a value. -/
def tokens : Json → List Token
  | .null => [.null]
  | .bool b => [.bool b]
  | .number raw => [.number raw]
  | .string raw => [.string raw]
  | .list items => .openList :: (itemTokens items ++ [.closeList])
  | .object members => .openObject :: (memberTokens members ++ [.closeObject])

def itemTokens : List Json → List Token
  | [] => []
  | v :: [] => tokens v
  | v :: w :: rest => tokens v ++ .comma :: itemTokens (w :: rest)

def memberTokens : List (List Char × Json) → List Token
  | [] => []
  | (k, v) :: [] => .string k :: .colon :: tokens v
  | (k, v) :: m :: rest => .string k :: .colon :: (tokens v ++ .comma :: memberTokens (m :: rest))

end

/-! ### Reading tokens -/

namespace State

theorem foldlM_append (ts us : List Token) (s : State) :
    (ts ++ us).foldlM step s = (ts.foldlM step s).bind fun s' => us.foldlM step s' := List.foldlM_append

/-- The first item of a list is read like any other. -/
theorem foldlM_opened (v : Json) (items : List Json) (stack : List Frame) (us : List Token) :
    (tokens v ++ us).foldlM step (.opened (.list items) stack) =
      (tokens v ++ us).foldlM step (.value (.list items :: stack)) := by
  cases v <;> simp only [tokens] <;> rfl

/-- The items of a list are filed one after the other. -/
theorem foldlM_items (stack : List Frame) : ∀ (items : List Json), items ≠ [] →
    (∀ v ∈ items, ∀ stack, (tokens v).foldlM step (.value stack) = some (give v stack)) → ∀ before,
    (itemTokens items ++ [Token.closeList]).foldlM step (.value (.list before :: stack)) =
      some (give (.list (before.reverse ++ items)) stack)
  | [], hne, _, _ => absurd rfl hne
  | v :: [], _, h, before => by
    rw [itemTokens, foldlM_append, h v List.mem_cons_self]
    simp [give, Frame.file, step]
  | v :: w :: rest, _, h, before => by
    have hrest := foldlM_items stack (w :: rest) (List.cons_ne_nil _ _)
      (fun u hu => h u (List.mem_cons_of_mem _ hu)) (v :: before)
    rw [itemTokens, List.append_assoc, foldlM_append, h v List.mem_cons_self]
    simpa [give, Frame.file, step] using hrest

/-- The members of an object are filed one after the other, the first name behind whatever lets it stand there. -/
theorem foldlM_members (stack : List Frame) : ∀ (members : List (List Char × Json)), members ≠ [] →
    (∀ m ∈ members, ∀ stack, (tokens m.2).foldlM step (.value stack) = some (give m.2 stack)) → ∀ before s,
    (∀ k, step s (.string k) = some (.colon before k stack)) →
    (memberTokens members ++ [Token.closeObject]).foldlM step s =
      some (give (.object (before.reverse ++ members)) stack)
  | [], hne, _, _, _, _ => absurd rfl hne
  | (k, v) :: [], _, h, before, s, hs => by
    have hv := h (k, v) List.mem_cons_self (.object before k :: stack)
    rw [memberTokens, List.cons_append, List.cons_append, List.foldlM_cons, hs]
    simp only [Option.bind_eq_bind, Option.bind_some, List.foldlM_cons, step, foldlM_append, hv]
    simp [give, Frame.file]
  | (k, v) :: m :: rest, _, h, before, s, hs => by
    have hv := h (k, v) List.mem_cons_self (.object before k :: stack)
    have hrest := foldlM_members stack (m :: rest) (List.cons_ne_nil _ _)
      (fun u hu => h u (List.mem_cons_of_mem _ hu)) ((k, v) :: before) (.member ((k, v) :: before) stack) fun _ => rfl
    rw [memberTokens, List.cons_append, List.cons_append, List.append_assoc, List.foldlM_cons, hs]
    simp only [Option.bind_eq_bind, Option.bind_some, List.foldlM_cons, step, foldlM_append, hv]
    simpa [give, Frame.file, step] using hrest

/-- The tokens of a value make the value, wherever it stands. -/
theorem foldlM_tokens {v : Json} (h : v.Written) (stack : List Frame) :
    (tokens v).foldlM step (.value stack) = some (give v stack) := by
  induction h generalizing stack with
  | null | bool _ | number _ _ | string _ => rfl
  | @list items _ ih =>
    rw [tokens]
    cases items with
    | nil => rfl
    | cons v rest =>
      have hopened : (itemTokens (v :: rest) ++ [Token.closeList]).foldlM step (.opened (.list []) stack) =
          (itemTokens (v :: rest) ++ [Token.closeList]).foldlM step (.value (.list [] :: stack)) := by
        cases rest with
        | nil => exact foldlM_opened v [] stack _
        | cons w rest =>
          rw [itemTokens, List.append_assoc]
          exact foldlM_opened v [] stack _
      show (itemTokens (v :: rest) ++ [Token.closeList]).foldlM step (.opened (.list []) stack) = _
      rw [hopened]
      exact foldlM_items stack _ (List.cons_ne_nil _ _) ih []
  | @object members _ _ ih =>
    rw [tokens]
    cases members with
    | nil => rfl
    | cons m rest => exact foldlM_members stack _ (List.cons_ne_nil _ _) ih [] _ fun _ => rfl

end State

theorem ofTokens?_tokens {v : Json} (h : v.Written) : ofTokens? (tokens v) = some v := by
  unfold ofTokens?
  rw [State.foldlM_tokens h]
  rfl

/-! ### Reading texts -/

namespace Token

/-- Whether a number or a word may end before a character. -/
def closes (c : Char) : Bool := !isNumeric c && !c.isAlpha

/-- Whether a number or a word may end before a text. -/
def closed : List Char → Bool
  | [] => true
  | c :: _ => closes c

/-- A text is read as some tokens, if no number or word goes on behind it. -/
def Spells (ts : List Token) (cs : List Char) : Prop :=
  ∀ rest, closed rest = true → scan (cs ++ rest) = (scan rest).map (ts ++ ·)

variable {ts us : List Token} {cs ds : List Char} {c : Char} {t : Token}

theorem isBlank_of_ofMark? (h : ofMark? c = some t) : isBlank c = false := by
  unfold ofMark? at h
  split at h <;> first | rfl | cases h

theorem scan_blank (h : isBlank c = true) (cs : List Char) : scan (c :: cs) = scan cs := by
  rw [scan, if_pos h]

theorem scan_first {rest : List Char} (hblank : isBlank c = false) (h : first? c cs = some (t, rest)) :
    scan (c :: cs) = (scan rest).map (t :: ·) := by
  rw [scan, if_neg (by simp [hblank])]
  split
  · rename_i hnone
    rw [h] at hnone
    cases hnone
  · rename_i hsome
    rw [h] at hsome
    cases hsome
    rfl

theorem spells_nil : Spells [] [] := by
  intro rest _
  show scan rest = _
  cases scan rest <;> rfl

namespace Spells

/-- A mark ends whatever stands before it. -/
theorem mark (hmark : ofMark? c = some t) (h : Spells us ds) : Spells (t :: us) (c :: ds) := by
  intro rest hrest
  have hfirst : first? c (ds ++ rest) = some (t, ds ++ rest) := by
    unfold first?
    rw [hmark]
  rw [List.cons_append, scan_first (isBlank_of_ofMark? hmark) hfirst, h rest hrest]
  cases scan rest <;> rfl

theorem blank (hblank : isBlank c = true) (h : Spells us ds) : Spells us (c :: ds) := by
  intro rest hrest
  rw [List.cons_append, scan_blank hblank, h rest hrest]

theorem blanks (h : Spells us ds) : ∀ {bs : List Char}, (∀ b ∈ bs, isBlank b = true) → Spells us (bs ++ ds)
  | [], _ => h
  | b :: _, hbs => blank (hbs b List.mem_cons_self) (blanks h fun b' hb' => hbs b' (List.mem_cons_of_mem _ hb'))

/-- One text behind another, which it closes. -/
theorem append (h : Spells ts cs) (hc : closes c = true) (h' : Spells us (c :: ds)) :
    Spells (ts ++ us) (cs ++ c :: ds) := by
  intro rest hrest
  have hclosed : closed (c :: ds ++ rest) = true := hc
  rw [List.append_assoc, h _ hclosed, h' rest hrest, Option.map_map]
  refine congrArg (Option.map · (scan rest)) ?_
  funext vs
  exact (List.append_assoc ts us vs).symm

end Spells

theorem spells_quoted {raw : List Char} (h : Quoted.Closed raw) : Spells [.string raw] (quoted raw) := by
  intro rest _
  have hfirst : first? '"' (raw ++ '"' :: rest) = some (.string raw, rest) := by
    show (Quoted.scan (raw ++ '"' :: rest)).map _ = _
    rw [h rest]
    rfl
  have htext : quoted raw ++ rest = '"' :: (raw ++ '"' :: rest) := by simp [quoted]
  rw [htext, scan_first rfl hfirst]
  rfl

/-- A run of characters of one kind ends where another kind begins. -/
theorem span_run {p : Char → Bool} {rest : List Char} (hall : ∀ c ∈ cs, p c = true)
    (hrest : ∀ c ∈ rest.head?, p c = false) :
    (cs ++ rest).takeWhile p = cs ∧ (cs ++ rest).dropWhile p = rest := by
  rw [List.takeWhile_append_of_pos hall, List.dropWhile_append_of_pos hall]
  cases rest with
  | nil => simp
  | cons c rest => simp [hrest c rfl]

theorem of_closed {rest : List Char} (h : closed rest = true) {p : Char → Bool}
    (hp : ∀ c, closes c = true → p c = false) : ∀ c ∈ rest.head?, p c = false := by
  intro c hc
  cases rest with
  | nil => cases hc
  | cons d rest =>
    obtain rfl := Option.some.inj hc
    exact hp d h

theorem not_isNumeric_of_closes (h : closes c = true) : isNumeric c = false := by
  unfold closes at h
  simp only [Bool.and_eq_true, Bool.not_eq_true'] at h
  exact h.1

theorem not_isAlpha_of_closes (h : closes c = true) : c.isAlpha = false := by
  unfold closes at h
  simp only [Bool.and_eq_true, Bool.not_eq_true'] at h
  exact h.2

/-- No mark, quote or blank is part of a number. -/
theorem of_isNumeric (h : isNumeric c = true) : ofMark? c = none ∧ c ≠ '"' ∧ isBlank c = false := by
  refine ⟨?_, ?_, ?_⟩
  · unfold ofMark?
    split <;> first | rfl | (revert h; decide)
  · rintro rfl
    revert h
    decide
  · rw [Bool.eq_false_iff]
    intro hblank
    simp only [isBlank, Bool.or_eq_true, beq_iff_eq] at hblank
    rcases hblank with ((rfl | rfl) | rfl) | rfl <;> (revert h; decide)

theorem spells_number {raw : List Char} (hnumber : isNumber raw = true) (hnumeric : ∀ c ∈ raw, isNumeric c = true) :
    Spells [.number raw] raw := by
  intro rest hrest
  cases raw with
  | nil => cases hnumber
  | cons c cs =>
    obtain ⟨hmark, hquote, hblank⟩ := of_isNumeric (hnumeric c List.mem_cons_self)
    obtain ⟨htake, hdrop⟩ := span_run (fun d hd => hnumeric d (List.mem_cons_of_mem c hd))
      (of_closed hrest fun _ => not_isNumeric_of_closes)
    have hfirst : first? c (cs ++ rest) = some (.number (c :: cs), rest) := by
      unfold first?
      rw [hmark]
      simp only [if_neg hquote, hnumeric c List.mem_cons_self, htake, hdrop, hnumber, if_true]
    rw [List.cons_append, scan_first hblank hfirst]
    rfl

/-- A word is read as its token. -/
theorem spells_word (hword : ofWord? (c :: cs) = some t) (hfirst : ofMark? c = none ∧ c ≠ '"' ∧ isNumeric c = false)
    (hblank : isBlank c = false) (halpha : ∀ d ∈ cs, d.isAlpha = true) : Spells [t] (c :: cs) := by
  intro rest hrest
  obtain ⟨hmark, hquote, hnumeric⟩ := hfirst
  obtain ⟨htake, hdrop⟩ := span_run halpha (of_closed hrest fun _ => not_isAlpha_of_closes)
  have hread : first? c (cs ++ rest) = some (t, rest) := by
    unfold first?
    rw [hmark]
    simp only [if_neg hquote, hnumeric, htake, hdrop, hword]
    rfl
  rw [List.cons_append, scan_first hblank hread]
  rfl

theorem spells_null : Spells [.null] "null".toList :=
  spells_word rfl ⟨rfl, by decide, rfl⟩ rfl (List.all_eq_true.1 rfl)

theorem spells_bool (b : Bool) : Spells [.bool b] (boolText b) := by
  cases b with
  | true => exact spells_word rfl ⟨rfl, by decide, rfl⟩ rfl (List.all_eq_true.1 rfl)
  | false => exact spells_word rfl ⟨rfl, by decide, rfl⟩ rfl (List.all_eq_true.1 rfl)

/-- Entries with a comma between two, and something behind the last that closes it. -/
theorem spells_entries {α : Type} {toks : α → List Token} {text : α → List Char} (hc : closes c = true)
    (h' : Spells us (c :: ds)) : ∀ (l : List α), (∀ a ∈ l, Spells (toks a) (text a)) →
      Spells ([.comma].intercalate (l.map toks) ++ us) ([','].intercalate (l.map text) ++ c :: ds)
  | [], _ => by simpa using h'
  | a :: [], h => by simpa using (h a List.mem_cons_self).append hc h'
  | a :: b :: rest, h => by
    have hrest := spells_entries hc h' (b :: rest) fun e he => h e (List.mem_cons_of_mem _ he)
    have hcomma : Spells (.comma :: _) (',' :: _) := .mark rfl hrest
    simpa using (h a List.mem_cons_self).append rfl hcomma

end Token

/-! ### Printed texts -/

theorem itemTokens_eq : ∀ items : List Json, itemTokens items = [.comma].intercalate (items.map tokens)
  | [] | [_] => by simp [itemTokens]
  | v :: w :: rest => by simp [itemTokens, itemTokens_eq (w :: rest)]

theorem memberTokens_eq : ∀ members : List (List Char × Json),
    memberTokens members = [.comma].intercalate (members.map fun m => .string m.1 :: .colon :: tokens m.2)
  | [] | [_] => by simp [memberTokens]
  | m :: m' :: rest => by simp [memberTokens, memberTokens_eq (m' :: rest)]

theorem itemChars_eq : ∀ items : List Json, itemChars items = [','].intercalate (items.map chars)
  | [] | [_] => by simp [itemChars]
  | v :: w :: rest => by simp [itemChars, itemChars_eq (w :: rest)]

theorem memberChars_eq : ∀ members : List (List Char × Json),
    memberChars members = [','].intercalate (members.map fun m => quoted m.1 ++ ':' :: chars m.2)
  | [] | [_] => by simp [memberChars]
  | m :: m' :: rest => by simp [memberChars, memberChars_eq (m' :: rest)]

theorem prettyItems_eq (depth : Nat) : ∀ items : List Json,
    prettyItems depth items = [','].intercalate (items.map fun v => newLine depth ++ prettyChars depth v)
  | [] | [_] => by simp [prettyItems]
  | v :: w :: rest => by simp [prettyItems, prettyItems_eq depth (w :: rest)]

theorem prettyMembers_eq (depth : Nat) : ∀ members : List (List Char × Json),
    prettyMembers depth members =
      [','].intercalate (members.map fun m => newLine depth ++ (quoted m.1 ++ ':' :: ' ' :: prettyChars depth m.2))
  | [] | [_] => by simp [prettyMembers]
  | m :: m' :: rest => by simp [prettyMembers, prettyMembers_eq depth (m' :: rest)]

theorem isBlank_of_mem_newLine {depth : Nat} {c : Char} (h : c ∈ newLine depth) : Token.isBlank c = true := by
  rcases List.mem_cons.1 h with rfl | h
  · rfl
  · rw [(List.mem_replicate.1 h).2]
    rfl

open Token

/-- The compact text of a value is read as its tokens. -/
theorem spells_chars {v : Json} (h : v.Written) : Spells (tokens v) (chars v) := by
  induction h with
  | null => exact spells_null
  | bool b => exact spells_bool b
  | number hnumber hnumeric => exact spells_number hnumber hnumeric
  | string hclosed => exact spells_quoted hclosed
  | @list items _ ih =>
    rw [tokens, chars, itemTokens_eq, itemChars_eq]
    exact .mark rfl (spells_entries rfl (.mark rfl spells_nil) items ih)
  | @object members hnames _ ih =>
    rw [tokens, chars, memberTokens_eq, memberChars_eq]
    refine .mark rfl (spells_entries rfl (.mark rfl spells_nil) members fun m hm => ?_)
    exact (spells_quoted (hnames m hm)).append rfl (.mark rfl (ih m hm))

/-- So is the text with one entry a line. -/
theorem spells_prettyChars {v : Json} (h : v.Written) (depth : Nat) : Spells (tokens v) (prettyChars depth v) := by
  have hend : ∀ {t : Token} {c : Char} (d : Nat), ofMark? c = some t → Spells [t] (newLine d ++ [c]) :=
    fun d hmark => Spells.blanks (.mark hmark spells_nil) fun _ => isBlank_of_mem_newLine
  induction h generalizing depth with
  | null => exact spells_null
  | bool b => exact spells_bool b
  | number hnumber hnumeric => exact spells_number hnumber hnumeric
  | string hclosed => exact spells_quoted hclosed
  | @list items _ ih =>
    cases items with
    | nil => exact .mark rfl (.mark rfl spells_nil)
    | cons v rest =>
      rw [tokens, prettyChars, itemTokens_eq, prettyItems_eq, List.append_assoc]
      refine .mark rfl (spells_entries (c := '\n') rfl (hend depth rfl) (v :: rest) fun w hw => ?_)
      exact Spells.blanks (ih w hw (depth + 1)) fun _ => isBlank_of_mem_newLine
  | @object members hnames _ ih =>
    cases members with
    | nil => exact .mark rfl (.mark rfl spells_nil)
    | cons m rest =>
      rw [tokens, prettyChars, memberTokens_eq, prettyMembers_eq, List.append_assoc]
      refine .mark rfl (spells_entries (c := '\n') rfl (hend depth rfl) (m :: rest) fun u hu => ?_)
      refine Spells.blanks ?_ fun _ => isBlank_of_mem_newLine
      exact (spells_quoted (hnames u hu)).append rfl (.mark rfl (.blank rfl (ih u hu (depth + 1))))

theorem parse?_of_spells {v : Json} (h : v.Written) {cs : List Char} (hspells : Spells (tokens v) cs) :
    parse? (.ofList cs) = some v := by
  have hscan := hspells [] rfl
  rw [List.append_nil] at hscan
  have hnil : scan [] = some [] := by rw [scan]
  unfold parse?
  rw [String.toList_ofList, hscan, hnil]
  simpa using ofTokens?_tokens h

/-- Reading what was printed without white space leads back. -/
theorem parse?_compact {v : Json} (h : v.Written) : parse? v.compact = some v := parse?_of_spells h (spells_chars h)

/-- Reading what was printed with one entry a line leads back. -/
theorem parse?_pretty {v : Json} (h : v.Written) : parse? v.pretty = some v :=
  parse?_of_spells h (spells_prettyChars h 0)

/-! ### Values made of texts and numbers -/

theorem written_ofText (s : String) : (ofText s).Written := .string (Quoted.closed_encode _)

/-- The digits of a number that is not zero do not begin with one. -/
theorem head_digits_ne_zero {n : Nat} (hn : 0 < n) : (Text.digits n).head? ≠ some '0' := by
  induction n using Nat.strongRecOn with
  | _ n ih =>
    unfold Text.digits
    by_cases hsmall : n < 10
    · rw [Nat.toDigits_of_lt_base hsmall]
      have hdigit : ∀ d < 10, 0 < d → [Nat.digitChar d].head? ≠ some '0' := by decide
      exact hdigit n hsmall hn
    · have hshorter := ih (n / 10) (by omega) (by omega)
      rw [Nat.toDigits_of_base_le (by decide) (by omega), List.head?_append]
      have hsome : (Nat.toDigits 10 (n / 10)).head?.isSome = true := by
        rw [List.isSome_head?]
        exact Nat.toDigits_ne_nil
      obtain ⟨c, hc⟩ := Option.isSome_iff_exists.1 hsome
      unfold Text.digits at hshorter
      rw [hc] at hshorter ⊢
      exact hshorter

theorem isNumber_cons {c : Char} (h : c ≠ '-') (cs : List Char) :
    Token.isNumber (c :: cs) = Token.isUnsigned (c :: cs) := by
  unfold Token.isNumber
  split <;> simp_all

theorem isUnsigned_cons {c : Char} (h : c ≠ '0') (cs : List Char) :
    Token.isUnsigned (c :: cs) = (c.isDigit && Token.isFraction (cs.dropWhile Char.isDigit)) := by
  unfold Token.isUnsigned
  split <;> simp_all

theorem isNumber_digits (n : Nat) : Token.isNumber (Text.digits n) = true := by
  by_cases hn : n = 0
  · subst hn
    decide
  · have hdigit : ∀ c ∈ Text.digits n, c.isDigit = true := fun _ => Text.isDigit_of_mem_digits
    have hzero := head_digits_ne_zero (Nat.pos_of_ne_zero hn)
    cases hds : Text.digits n with
    | nil => exact absurd hds Nat.toDigits_ne_nil
    | cons c cs =>
      rw [hds] at hdigit hzero
      have hc : c.isDigit = true := hdigit c List.mem_cons_self
      have hrest : cs.dropWhile Char.isDigit = [] :=
        List.dropWhile_eq_nil_iff.2 fun d hd => hdigit d (List.mem_cons_of_mem c hd)
      have hsign : c ≠ '-' := by
        rintro rfl
        cases hc
      have hlead : c ≠ '0' := fun h => hzero (by rw [h]; rfl)
      rw [isNumber_cons hsign, isUnsigned_cons hlead, hc, hrest]
      rfl

theorem written_ofNat (n : Nat) : (ofNat n).Written := by
  refine .number (isNumber_digits n) fun c hc => ?_
  simp [Token.isNumeric, Text.isDigit_of_mem_digits hc]

theorem written_ofMembers {members : List (String × Json)} (h : ∀ m ∈ members, m.2.Written) :
    (ofMembers members).Written := by
  refine .object (fun m hm => ?_) fun m hm => ?_
  · obtain ⟨e, -, rfl⟩ := List.mem_map.1 hm
    exact Quoted.closed_encode _
  · obtain ⟨e, he, rfl⟩ := List.mem_map.1 hm
    exact h e he

theorem written_ofOption {α : Type} {f : α → Json} (h : ∀ a, (f a).Written) (o : Option α) :
    (ofOption f o).Written := by
  cases o with
  | none => exact .null
  | some a => exact h a

end SessionBroker.Json
