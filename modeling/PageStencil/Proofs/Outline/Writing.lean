import PageStencil.Proofs.Outline.Grammar
import PageStencil.Proofs.Text.Joining

/-!
Lines that say a given label and address. Of the texts and addresses there are, exactly those that stand in one line,
are trimmed and keep clear of the brackets that would end them can be read off a line, and each can be written.
-/

namespace PageStencil.Outline

open Text

def Apart (t : List Char) : Prop := t.Pairwise fun a b => a = '[' → b ≠ ']'

structure Fits (text : String) (href : Option String) : Prop where
  text_line : '\n' ∉ text.toList
  text_tight : Tight text.toList
  text_apart : Apart text.toList
  href_line : ∀ a ∈ href, '\n' ∉ a.toList
  href_tight : ∀ a ∈ href, Tight a.toList
  href_open : ∀ a ∈ href, ')' ∉ a.toList

def Writable (l : Link) : Prop := ∃ text href, l = { text := some text, href := href } ∧ Fits text href

inductive Body : List Char → Option (List Char) → List Char → Prop
  | plain {t} : '[' ∉ t → Body t none t
  | opened {p q} : '[' ∉ p → ']' ∉ q → Body (p ++ q) none (p ++ '[' :: q)
  | linked {p q a} : '[' ∉ p → ']' ∉ q → Body (p ++ q) (some a) (p ++ '[' :: (q ++ ']' :: '(' :: (a ++ [')'])))

inductive Writes : Lexeme → List Char → Prop
  | intro {w c m text href body} : Indent w → Marks c m → Body text.toList (href.map String.toList) body →
      Writes ⟨w.length, m, text, href⟩ (w ++ c :: ' ' :: body)

lemma writable_link {x : Lexeme} : Writable x.link ↔ Fits x.text x.href := by
  constructor
  · rintro ⟨text, href, hl, hf⟩
    obtain ⟨ht, rfl⟩ : x.text = text ∧ x.href = href := by simpa [Lexeme.link] using hl
    rwa [ht]
  · intro h
    exact ⟨x.text, x.href, rfl, h⟩

section Brackets

variable {p q t : List Char}

lemma apart_append (hp : '[' ∉ p) (hq : ']' ∉ q) : Apart (p ++ q) := by
  have hl : ∀ a ∈ p, ∀ b : Char, a = '[' → b ≠ ']' := by
    rintro a ha b rfl
    exact absurd ha hp
  refine List.pairwise_append.mpr ⟨?_, ?_, ?_⟩
  · exact List.pairwise_of_forall_mem_list fun a ha b _ => hl a ha b
  · apply List.pairwise_of_forall_mem_list
    rintro a _ b hb _ rfl
    exact hq hb
  · intro a ha b _
    exact hl a ha b

lemma Apart.split (h : Apart t) : ∃ p q, t = p ++ q ∧ '[' ∉ p ∧ ']' ∉ q := by
  rcases split_at '[' t with ht | ⟨p, r, rfl, hp⟩
  · exact ⟨t, [], (List.append_nil t).symm, ht, by simp⟩
  · refine ⟨p, '[' :: r, rfl, hp, ?_⟩
    have hr := (List.pairwise_cons.mp (List.pairwise_append.mp h).2.1).1
    rw [List.mem_cons, not_or]
    exact ⟨by decide, fun hm => hr ']' hm rfl rfl⟩

lemma Apart.trims {s : List Char} (hs : Apart s) (h : Trims s t) : Apart t := by
  obtain ⟨_, a, b, _, _, rfl⟩ := h
  exact (List.pairwise_append.mp (List.pairwise_append.mp hs).1).2.1

end Brackets

section Lines

variable {x : Lexeme} {line : List Char} {t body : List Char} {href : Option (List Char)}

lemma Body.labels (h : Body t href body) (hh : ∀ a ∈ href, ')' ∉ a) : Labels (' ' :: body) (' ' :: t) href := by
  have hsp : ∀ {p : List Char}, '[' ∉ p → '[' ∉ ' ' :: p := by
    intro p hp
    simpa using hp
  cases h with
  | plain ht => exact .plain (hsp ht)
  | opened hp hq => exact .openLabel (hsp hp) hq
  | @linked p q a hp hq => exact .address (g := []) (hsp hp) hq (by simp [Indent]) (hh a rfl)

lemma Body.last (h : Body t href body) (ht : Tight t) : (' ' :: body).getLast? ≠ some '\r' := by
  -- a carriage return is blank, so a trimmed text does not end in one
  have hblank : ∀ c ∈ t.getLast?, c ≠ '\r' := by
    rintro c hc rfl
    exact absurd (ht.last '\r' hc) (by decide)
  cases h with
  | plain _ =>
    intro hl
    cases hb : t.getLast? with
    | none => simp [List.getLast?_cons, hb] at hl
    | some c => exact hblank c hb (by simpa [List.getLast?_cons, hb] using hl)
  | @opened p q _ _ =>
    intro hl
    cases hb : q.getLast? with
    | none => simp [List.getLast?_cons, hb] at hl
    | some c => exact hblank c (by simp [List.getLast?_append, hb]) (by simpa [List.getLast?_cons, hb] using hl)
  | linked _ _ => simp [List.getLast?_cons]

lemma Writes.ofLine (h : Writes x line) (hx : Fits x.text x.href) (number : Option Int) :
    Lexeme.ofLine number line = .ok x := by
  obtain @⟨w, c, m, text, href, body, hw, hc, hb⟩ := h
  have hclosed : ∀ a ∈ href.map String.toList, ')' ∉ a := by
    intro a ha
    obtain ⟨s, hs, rfl⟩ := Option.map_eq_some_iff.mp ha
    exact hx.href_open s hs
  have htrims : Trims (' ' :: text.toList) text.toList :=
    ⟨hx.text_tight, [' '], [], by simp; decide, by simp, by simp⟩
  have hrel : Option.Rel Trims (href.map String.toList) (href.map String.toList) := by
    cases href with
    | none => exact .none
    | some a => exact .some ⟨hx.href_tight a rfl, [], [], by simp, by simp, by simp⟩
  have hr : Reads number (w ++ c :: ' ' :: body) _ := .lexeme hw hc (hb.labels hclosed) htrims hrel
  rw [ofLine_of_reads hr]
  simp [Option.map_map, Function.comp_def]

lemma Writes.isWritten (h : Writes x line) : isWritten line = true := by
  obtain @⟨w, c, m, text, href, body, hw, hc, hb⟩ := h
  have hm : isBlank c = false := by cases hc <;> decide
  simp [Text.isWritten, allBlank, hm]

lemma Writes.last (h : Writes x line) (hx : Fits x.text x.href) : line.getLast? ≠ some '\r' := by
  obtain @⟨w, c, m, text, href, body, hw, hc, hb⟩ := h
  have hl := hb.last hx.text_tight
  simpa [List.getLast?_append, List.getLast?_cons] using hl

lemma exists_body (hx : Fits x.text x.href) :
    ∃ body, Body x.text.toList (x.href.map String.toList) body ∧ '\n' ∉ body := by
  obtain ⟨p, q, hs, hp, hq⟩ := hx.text_apart.split
  have ht := hx.text_line
  rw [hs, List.mem_append, not_or] at ht
  rw [hs]
  cases hh : x.href with
  | none => exact ⟨_, .opened hp hq, by simp [ht]⟩
  | some a => exact ⟨_, .linked hp hq, by simpa [ht] using hx.href_line a hh⟩

lemma exists_writes (hx : Fits x.text x.href) : ∃ line, Writes x line ∧ '\n' ∉ line := by
  obtain ⟨body, hb, hl⟩ := exists_body hx
  obtain ⟨c, hc, hn⟩ : ∃ c, Marks c x.marker ∧ c ≠ '\n' := by
    cases x.marker with
    | title => exact ⟨'#', .title, by decide⟩
    | item => exact ⟨'-', .item, by decide⟩
  have hw : Indent (List.replicate x.indentation ' ') := fun d hd => Or.inl (List.eq_of_mem_replicate hd)
  have h := Writes.intro hw hc hb
  rw [List.length_replicate] at h
  exact ⟨_, h, by simp [hl, Ne.symm hn]⟩

lemma Labels.apart {r label : List Char} (h : Labels r label href) : Apart label := by
  cases h with
  | plain hr => simpa using apart_append hr (show ']' ∉ [] by simp)
  | openLabel hp hs => exact apart_append hp hs
  | bracketed hp hq => exact apart_append hp hq
  | openAddress hp hq => exact apart_append hp hq
  | address hp hq => exact apart_append hp hq

lemma Labels.mem {r label : List Char} (h : Labels r label href) :
    (∀ c ∈ label, c ∈ r) ∧ ∀ a ∈ href, ')' ∉ a ∧ ∀ c ∈ a, c ∈ r := by
  cases h with
  | plain hr => simp
  | openLabel hp hs => grind
  | bracketed hp hq hg => grind
  | openAddress hp hq hg hh => grind
  | address hp hq hg hh => grind

lemma fits_of_ofLine {number : Option Int} (hl : '\n' ∉ line) (h : Lexeme.ofLine number line = .ok x) :
    Fits x.text x.href := by
  cases (ofLine_eq_iff_reads number line _).mp h with
  | @lexeme w c m r label address text href hw hc hb ht hh =>
    obtain ⟨hlabel, haddress⟩ := hb.mem
    have hr : '\n' ∉ r := fun hm => hl (by simp [hm])
    have hhref : ∀ a ∈ href.map String.ofList, ∃ s b, a = String.ofList s ∧ b ∈ address ∧ Trims b s := by
      intro a ha
      cases hh with
      | none => cases ha
      | some hts => exact ⟨_, _, (Option.some.inj ha).symm, rfl, hts⟩
    exact {
      text_line := by
        rw [String.toList_ofList]
        exact fun hm => hr (hlabel _ (ht.mem hm))
      text_tight := by
        rw [String.toList_ofList]
        exact ht.tight
      text_apart := by
        rw [String.toList_ofList]
        exact hb.apart.trims ht
      href_line := by
        intro a ha
        obtain ⟨s, b, rfl, hb, hs⟩ := hhref a ha
        rw [String.toList_ofList]
        exact fun hm => hr ((haddress b hb).2 _ (hs.mem hm))
      href_tight := by
        intro a ha
        obtain ⟨s, b, rfl, _, hs⟩ := hhref a ha
        rw [String.toList_ofList]
        exact hs.tight
      href_open := by
        intro a ha
        obtain ⟨s, b, rfl, hb, hs⟩ := hhref a ha
        rw [String.toList_ofList]
        exact fun hm => (haddress b hb).1 (hs.mem hm) }

theorem writable_iff (l : Link) :
    Writable l ↔ ∃ number line x, '\n' ∉ line ∧ Lexeme.ofLine number line = .ok x ∧ x.link = l := by
  constructor
  · rintro ⟨text, href, rfl, hf⟩
    obtain ⟨line, hw, hl⟩ := exists_writes (x := ⟨0, .item, text, href⟩) hf
    exact ⟨none, line, _, hl, hw.ofLine hf none, rfl⟩
  · rintro ⟨number, line, x, hl, hx, rfl⟩
    exact writable_link.mpr (fits_of_ofLine hl hx)

end Lines

end PageStencil.Outline
