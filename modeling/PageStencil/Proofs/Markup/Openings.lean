import PageStencil.Proofs.Markup.ElementNames
import PageStencil.Proofs.Running

/-!
The openings that are read from markup. In every dialect the name of an element begins with a letter or with what may
begin a name, and so not with a bracket.
-/

namespace PageStencil.Markup

lemma Tag.name_markEncoding (t : Tag) : t.markEncoding.name = t.name := by
  fun_cases Tag.markEncoding t <;> rfl

lemma Tag.name_ofTexts (name : String) (as : List (String × String)) : (ofTexts name as).name = name :=
  name_markEncoding _

lemma forall_isLetter {P : Char → Prop}
    (h : ∀ n < 128, Text.isLetter (Char.ofNat n) = true → P (Char.ofNat n)) {c : Char} (hc : Text.isLetter c = true) :
    P c := by
  have hlt : c.toNat < 128 := by
    simp only [Text.isLetter, Bool.or_eq_true, Bool.and_eq_true, decide_eq_true_eq] at hc
    rcases hc with ⟨_, hle⟩ | ⟨_, hle⟩
    · exact Nat.lt_of_le_of_lt (show c.toNat ≤ 122 from hle) (by decide)
    · exact Nat.lt_of_le_of_lt (show c.toNat ≤ 90 from hle) (by decide)
  exact Char.ofNat_toNat c ▸ h c.toNat hlt (by rwa [Char.ofNat_toNat])

namespace Fragment

variable {s r : List Char} {name : String} {as : List (String × String)} {closed : Bool}

lemma isElementName_lower (h : s.head?.any Text.isLetter = true) : IsElementName (lower s) := by
  cases s with
  | nil => cases h
  | cons c s =>
    have hlower : c ≠ '\u03A3' ∧ Text.lowerChar c = [c.toLower] ∧ c.toLower ≠ '[' :=
      forall_isLetter (P := fun c => c ≠ '\u03A3' ∧ Text.lowerChar c = [c.toLower] ∧ c.toLower ≠ '[')
        (by decide +kernel) h
    refine isElementName_of_head ?_
    rw [Text.lowerBehind, if_neg hlower.1, hlower.2.1]
    exact fun heq => hlower.2.2 (Option.some.inj heq)

lemma isElementName_startTag (h : s.head?.any Text.isLetter = true)
    (hs : startTag s = .ok (.complete name as closed r)) : IsElementName name := by
  have hname : (s.takeWhile isTagNameChar).head?.any Text.isLetter = true := by
    cases s with
    | nil => cases h
    | cons c s =>
      have hchar : isTagNameChar c = true :=
        forall_isLetter (P := fun c => isTagNameChar c = true) (by decide +kernel) h
      rw [List.takeWhile_cons_of_pos hchar]
      exact h
  unfold startTag at hs
  dsimp only at hs
  split at hs
  · cases hs
  · obtain ⟨_, _, heq⟩ := map_eq_ok hs
    cases heq
    exact isElementName_lower hname
  · obtain ⟨_, _, heq⟩ := map_eq_ok hs
    cases heq
    exact isElementName_lower hname
  · split at hs
    · cases hs
    · obtain ⟨_, _, heq⟩ := map_eq_ok hs
      cases heq

def Report.Named : Report → Prop
  | .opening name _ _ => IsElementName name
  | _ => True

def Progress.reports : Progress → List Report
  | step rs _ _ => rs
  | pause rs _ => rs

namespace Report

variable {rs : List Report} {p : Progress} {final : Bool} {raw : Option String}

lemma named_endTag? (h : endTag? s = some (rs, r)) : ∀ q ∈ rs, q.Named := by
  unfold endTag? at h
  split at h
  · cases h
  · split at h
    · cases h
      exact List.forall_mem_singleton.mpr trivial
    · split_ifs at h <;> cases h
      · exact List.forall_mem_singleton.mpr trivial
      · exact List.forall_mem_nil _
      · exact List.forall_mem_singleton.mpr trivial

lemma named_sectionReport (body : List Char) : (sectionReport body).Named := by
  rw [sectionReport]
  split_ifs <;> trivial

lemma named_declaration? {found : Option (List Report × List Char)} (h : declaration? s = .ok found)
    (hfound : found = some (rs, r)) : ∀ q ∈ rs, q.Named := by
  subst hfound
  unfold declaration? at h
  split at h
  · unfold markedSection at h
    dsimp only at h
    split_ifs at h
    · cases h
    · cases h
    · split at h
      · cases h
      · obtain ⟨_, _, heq⟩ := Option.map_eq_some_iff.mp (Except.ok.inj h)
        cases heq
        exact List.forall_mem_singleton.mpr (named_sectionReport _)
  · obtain ⟨_, _, heq⟩ := Option.map_eq_some_iff.mp (Except.ok.inj h)
    dsimp only at heq
    split_ifs at heq <;> cases heq <;> exact List.forall_mem_singleton.mpr trivial

lemma beginsBracketed_tag {t : List Char} (h : beginsBracketed ('<' :: t) = true)
    (hend : ∀ u, t ≠ '/' :: u) (hmark : ∀ u, t ≠ '!' :: u) (hquery : ∀ u, t ≠ '?' :: u) :
    t.head?.any Text.isLetter = true := by
  cases t with
  | nil => cases h
  | cons c t =>
    simp only [beginsBracketed, Bool.or_eq_true, beq_iff_eq] at h
    rcases h with ((h | rfl) | rfl) | rfl
    · exact h
    · exact absurd rfl (hend t)
    · exact absurd rfl (hmark t)
    · exact absurd rfl (hquery t)

lemma named_bracketed (hs : beginsBracketed s = true) (h : bracketed s = .ok (some p)) : ∀ q ∈ p.reports, q.Named := by
  unfold bracketed at h
  dsimp only at h
  split at h
  · obtain ⟨⟨rs, r⟩, hfound, rfl⟩ := Option.map_eq_some_iff.mp (Except.ok.inj h)
    exact named_endTag? hfound
  · obtain ⟨⟨rs, r⟩, hfound, rfl⟩ := Option.map_eq_some_iff.mp (Except.ok.inj h)
    obtain ⟨_, _, heq⟩ := Option.map_eq_some_iff.mp hfound
    cases heq
    exact List.forall_mem_singleton.mpr trivial
  · obtain ⟨⟨rs, r⟩, hfound, rfl⟩ := Option.map_eq_some_iff.mp (Except.ok.inj h)
    obtain ⟨_, _, heq⟩ := Option.map_eq_some_iff.mp hfound
    cases heq
    exact List.forall_mem_singleton.mpr trivial
  · obtain ⟨found, hfound, heq⟩ := map_eq_ok h
    obtain ⟨⟨rs, r⟩, hsome, rfl⟩ := Option.map_eq_some_iff.mp heq
    exact named_declaration? hfound hsome
  · rename_i t hend _ hquery hmark
    obtain ⟨tag, htag, h⟩ := bind_eq_ok h
    have hletter := beginsBracketed_tag hs hend hmark hquery
    split at h
    · cases h
    · cases h
      exact List.forall_mem_singleton.mpr trivial
    · cases h
      exact List.forall_mem_singleton.mpr (isElementName_startTag hletter htag)
  · cases h

lemma named_ampersand (h : ampersand final s = .ok p) : ∀ q ∈ p.reports, q.Named := by
  unfold ampersand at h
  split at h
  · split at h
    · obtain ⟨_, _, h⟩ := bind_eq_ok h
      cases h
      exact List.forall_mem_singleton.mpr trivial
    · split_ifs at h <;> cases h
      · exact List.forall_mem_singleton.mpr trivial
      · exact List.forall_mem_nil _
  · split at h
    · split at h <;> cases h
      · exact List.forall_mem_singleton.mpr trivial
      · exact List.forall_mem_nil _
    · cases h
      exact List.forall_mem_singleton.mpr trivial
  · cases h
    exact List.forall_mem_nil _

lemma named_nonEmptyText (s : List Char) : ∀ q ∈ nonEmptyText s, q.Named := by
  rw [nonEmptyText]
  split_ifs
  · exact List.forall_mem_nil _
  · exact List.forall_mem_singleton.mpr trivial

lemma named_next (h : next final raw s = .ok p) : ∀ q ∈ p.reports, q.Named := by
  unfold next at h
  split at h
  · split at h <;> cases h
    · exact List.forall_mem_append.mpr ⟨named_nonEmptyText _, List.forall_mem_singleton.mpr trivial⟩
    · exact List.forall_mem_nil _
  · dsimp only at h
    split at h
    · cases h
      exact List.forall_mem_singleton.mpr trivial
    · split at h
      next => exact named_ampersand h
      next =>
        split at h
        next hbracket =>
          obtain ⟨found, hfound, h⟩ := bind_eq_ok h
          split at h
          · cases h
            exact named_bracketed hbracket hfound
          · split_ifs at h <;> cases h
            · exact List.forall_mem_singleton.mpr trivial
            · exact List.forall_mem_nil _
        next =>
          split at h <;> cases h
          · exact List.forall_mem_singleton.mpr trivial
          · exact List.forall_mem_nil _

lemma named_readWithin {fuel : Nat} (h : readWithin fuel final raw s = .ok rs) : ∀ q ∈ rs, q.Named := by
  induction fuel generalizing final raw s rs with
  | zero =>
    cases h
    exact List.forall_mem_nil _
  | succ fuel ih =>
    cases s with
    | nil =>
      cases h
      exact List.forall_mem_nil _
    | cons c s =>
      obtain ⟨p, hp, h⟩ := bind_eq_ok h
      have hstep := named_next hp
      cases p with
      | step qs raw r =>
        obtain ⟨rest, hrest, h⟩ := bind_eq_ok h
        cases h
        exact List.forall_mem_append.mpr ⟨hstep, ih hrest⟩
      | pause qs r =>
        dsimp only at h
        split at h
        · cases h
          refine List.forall_mem_append.mpr ⟨hstep, ?_⟩
          split_ifs
          · exact named_nonEmptyText r
          · exact List.forall_mem_nil _
        · obtain ⟨rest, hrest, h⟩ := bind_eq_ok h
          cases h
          exact List.forall_mem_append.mpr ⟨hstep, ih hrest⟩

end Report

lemma named_endPiece (listed : List String) (name : String) : ∀ p ∈ (endPiece listed name).1, p.Named := by
  rw [endPiece]
  split_ifs
  · exact List.forall_mem_nil _
  · exact List.forall_mem_singleton.mpr trivial

lemma named_piecesFrom {listed : List String} {rs : List Report} (h : ∀ r ∈ rs, r.Named) :
    ∀ p ∈ piecesFrom listed rs, p.Named := by
  induction rs generalizing listed with
  | nil => exact List.forall_mem_nil _
  | cons r rs ih =>
    obtain ⟨hr, hrs⟩ := List.forall_mem_cons.mp h
    cases r with
    | opening name as closed =>
      have hopening : (Piece.opening (Tag.ofTexts name (lastOfEach as))).Named := by
        rwa [Piece.Named, Tag.name_ofTexts]
      rw [piecesFrom]
      dsimp only
      split_ifs
      · exact List.forall_mem_cons.mpr ⟨hopening, List.forall_mem_append.mpr ⟨named_endPiece listed name, ih hrs⟩⟩
      · exact List.forall_mem_cons.mpr ⟨hopening, List.forall_mem_cons.mpr ⟨trivial, ih hrs⟩⟩
      · exact List.forall_mem_cons.mpr ⟨hopening, ih hrs⟩
    | closing name => exact List.forall_mem_append.mpr ⟨named_endPiece listed name, ih hrs⟩
    | text _ => exact List.forall_mem_cons.mpr ⟨trivial, ih hrs⟩
    | aside _ _ => exact List.forall_mem_cons.mpr ⟨trivial, ih hrs⟩

lemma named_pieces {ps : List Piece} (h : pieces s = .ok ps) : ∀ p ∈ ps, p.Named := by
  obtain ⟨rs, hrs, rfl⟩ := map_eq_ok h
  exact named_piecesFrom (Report.named_readWithin hrs)

end Fragment

namespace Page

def Token.Named : Token → Prop
  | .opening name _ _ => IsElementName name
  | _ => True

namespace Token

variable {s : List Char} {ts : List Token}

lemma isElementName_tagName (h : s.head?.any Text.isLetter = true) : IsElementName (tagName s).1 := by
  cases s with
  | nil => cases h
  | cons c s =>
    have hletter : endsName c = false ∧ (replaceNull c).toLower ≠ '[' :=
      forall_isLetter (P := fun c => endsName c = false ∧ (replaceNull c).toLower ≠ '[') (by decide +kernel) h
    refine isElementName_of_head ?_
    rw [List.takeWhile_cons_of_pos (by rw [hletter.1]; rfl), List.map_cons, withinOctets]
    split_ifs
    · exact fun heq => hletter.2 (Option.some.inj heq)
    · nofun

lemma named_afterBracket (s : List Char) : ∀ t ∈ (afterBracket s).1, t.Named := by
  unfold afterBracket
  dsimp only
  split
  · exact List.forall_mem_singleton.mpr trivial
  · split_ifs
    · exact List.forall_mem_singleton.mpr trivial
    · exact List.forall_mem_singleton.mpr trivial
  · exact List.forall_mem_singleton.mpr trivial
  · exact List.forall_mem_nil _
  · split
    · split
      · exact List.forall_mem_singleton.mpr trivial
      · exact List.forall_mem_nil _
    · exact List.forall_mem_singleton.mpr trivial
  · split
    next hletter =>
      split
      · exact List.forall_mem_singleton.mpr (isElementName_tagName hletter)
      · exact List.forall_mem_nil _
    next => exact List.forall_mem_singleton.mpr trivial
  · exact List.forall_mem_singleton.mpr trivial

lemma named_textToken (s : List Char) : ∀ t ∈ textToken s, t.Named := by
  rw [textToken]
  split_ifs
  · exact List.forall_mem_nil _
  · exact List.forall_mem_singleton.mpr trivial

lemma named_behind (ts : List Token) (s : List Char) : ∀ t ∈ (behind ts s).1, t.Named := by
  unfold behind
  split
  · exact named_textToken _
  · exact List.forall_mem_nil _

lemma named_scan (fuel : Nat) (s : List Char) : ∀ t ∈ scan fuel s, t.Named := by
  induction fuel generalizing s with
  | zero => exact List.forall_mem_nil _
  | succ fuel ih =>
    cases s with
    | nil => exact List.forall_mem_nil _
    | cons c s =>
      rw [scan]
      split_ifs
      · exact List.forall_mem_append.mpr
          ⟨List.forall_mem_append.mpr ⟨named_afterBracket s, named_behind _ _⟩, ih _⟩
      · exact List.forall_mem_append.mpr ⟨named_textToken _, ih _⟩

end Token

namespace Draft

variable {d e : Draft} {p : Piece} {name : String} {tag : Tag}

def Named (d : Draft) : Prop := ∀ p ∈ d.pieces, p.Named

lemma Named.emit (h : d.Named) (hp : p.Named) : (d.emit p).Named := List.forall_mem_cons.mpr ⟨hp, h⟩

lemma Named.enter (h : d.Named) (htag : IsElementName tag.name) : (d.enter tag).Named :=
  List.forall_mem_cons.mpr ⟨htag, h⟩

lemma Named.leave (h : d.Named) : d.leave.Named := by
  rw [Draft.leave]
  split
  · exact h
  · exact List.forall_mem_cons.mpr ⟨trivial, h⟩

lemma Named.leaveWhile (h : d.Named) (p : String → Bool) (fuel : Nat) : (d.leaveWhile p fuel).Named := by
  induction fuel generalizing d with
  | zero => exact h
  | succ fuel ih =>
    rw [Draft.leaveWhile]
    split_ifs
    · exact ih h.leave
    · exact h

lemma Named.leaveAll (h : d.Named) (p : String → Bool) : (d.leaveAll p).Named := h.leaveWhile p _

lemma Named.imply (h : d.Named) (name : String) : (d.imply name).Named := by
  rw [Draft.imply]
  split
  · exact h
  · have hpage : (if d.reader.names.isEmpty then d.enterNamed "html" else d).Named := by
      split_ifs
      · exact h.enter (by decide)
      · exact h
    generalize (if d.reader.names.isEmpty then d.enterNamed "html" else d) = d' at hpage ⊢
    dsimp only
    split_ifs
    · exact hpage
    · exact hpage
    · exact hpage.enter (by decide)
    · exact hpage
    · exact hpage.enter (by decide)

lemma Named.openTag (h : d.Named) (htag : IsElementName tag.name) (closed : Bool) : (d.openTag tag closed).Named := by
  have hroom : ((d.makeRoom tag.name).imply tag.name).Named := Named.imply (h.leaveAll _) _
  rw [Draft.openTag]
  dsimp only
  split_ifs
  · exact hroom
  · exact (hroom.enter htag).leave
  · exact hroom.enter htag

lemma Named.closeTag (h : d.Named) (name : String) : (d.closeTag name).Named := by
  rw [Draft.closeTag]
  split_ifs
  · exact h
  · exact (h.leaveAll _).leave
  · exact h

lemma Named.addText (h : d.Named) (s : List Char) : (d.addText s).Named := by
  rw [Draft.addText]
  split_ifs
  · exact h
  · exact h.emit trivial

lemma Named.putText (h : d.Named) (s : List Char) : (d.putText s).Named := by
  rw [Draft.putText]
  dsimp only
  split
  · split
    · exact h.addText _
    · refine Named.addText (Named.imply ?_ _) _
      split_ifs
      · exact (h.addText _).leaveAll _
      · exact h.addText _
  · exact h.addText s

lemma name_tagOf {as : List (String × String)} (h : tagOf name as = .ok tag) : tag.name = name := by
  obtain ⟨named, _, h⟩ := bind_eq_ok h
  cases h
  exact Tag.name_ofTexts _ _

lemma Named.add (h : d.Named) {t : Token} (ht : t.Named) (hadd : d.add t = .ok e) : e.Named := by
  cases t with
  | opening name as closed =>
    obtain ⟨tag, htag, hadd⟩ := bind_eq_ok hadd
    cases hadd
    exact h.openTag (name_tagOf htag ▸ ht) closed
  | closing name =>
    cases hadd
    exact h.closeTag name
  | text s =>
    cases hadd
    exact h.putText s
  | comment s =>
    cases hadd
    exact h.emit trivial
  | doctype s =>
    cases hadd
    exact h.emit trivial

lemma Named.addAll (h : d.Named) {ts : List Token} (hts : ∀ t ∈ ts, t.Named) (hadd : ts.foldlM Draft.add d = .ok e) :
    e.Named := by
  induction ts generalizing d with
  | nil =>
    cases hadd
    exact h
  | cons t ts ih =>
    obtain ⟨ht, hts⟩ := List.forall_mem_cons.mp hts
    rw [List.foldlM_cons] at hadd
    obtain ⟨d', hd', hadd⟩ := bind_eq_ok hadd
    exact ih (h.add ht hd') hts hadd

end Draft

lemma named_pieces {s : List Char} {ps : List Piece} (h : pieces s = .ok ps) : ∀ p ∈ ps, p.Named := by
  obtain ⟨d, hd, h⟩ := bind_eq_ok h
  cases h
  have hempty : Draft.Named {} := List.forall_mem_nil _
  have hnamed := hempty.addAll (Token.named_scan _ s) hd
  exact fun p hp => hnamed p (List.mem_reverse.mp hp)

end Page

namespace Xml

variable {s rest : List Char}

lemma plainName?_head {w : List Char} (h : plainName? s = some (w, rest)) :
    ∃ c v, w = c :: v ∧ isNameStart c = true := by
  unfold plainName? at h
  split at h
  · next hstart =>
    cases h
    cases s with
    | nil => cases hstart
    | cons c s =>
      have hc : isNameStart c = true := hstart
      have hchar : isNameChar c = true := by rw [isNameChar, hc, Bool.true_or]
      exact ⟨c, _, List.takeWhile_cons_of_pos hchar, hc⟩
  · cases h

lemma isElementName_of_nameStart {c : Char} {w : List Char} (h : isNameStart c = true) :
    IsElementName (String.ofList (c :: w)) := by
  refine isElementName_of_head fun heq => ?_
  rw [List.head?_cons, Option.some.injEq] at heq
  subst heq
  exact absurd h (by decide +kernel)

lemma isElementName_name? {n : Name} (h : name? s = some (n, rest)) : IsElementName n.base := by
  obtain ⟨⟨first, r⟩, hfirst, h⟩ := Option.bind_eq_some_iff.mp h
  obtain ⟨c, w, rfl, hc⟩ := plainName?_head hfirst
  dsimp only at h
  split at h
  · split at h
    next second _ hsecond =>
      cases h
      obtain ⟨d, v, rfl, hd⟩ := plainName?_head hsecond
      exact isElementName_of_nameStart hd
    next =>
      cases h
      exact isElementName_of_nameStart hc
  · cases h
    exact isElementName_of_nameStart hc

lemma isElementName_startTag? {t : StartTag} (h : startTag? s = some (t, rest)) : IsElementName t.name.base := by
  obtain ⟨⟨n, r⟩, hn, h⟩ := Option.bind_eq_some_iff.mp h
  dsimp only at h
  split at h <;> cases h <;> exact isElementName_name? hn

namespace Reader

variable {r r' : Reader} {ps : List Piece}

lemma named_textPiece (s : List Char) : ∀ p ∈ textPiece s, p.Named := by
  rw [textPiece]
  split_ifs
  · exact List.forall_mem_nil _
  · exact List.forall_mem_singleton.mpr trivial

lemma named_instruction (h : r.instruction s = some (ps, r', rest)) : ∀ p ∈ ps, p.Named := by
  unfold instruction at h
  split at h
  · cases h
    exact List.forall_mem_nil _
  · obtain ⟨_, _, h⟩ := Option.bind_eq_some_iff.mp h
    cases h
    exact List.forall_mem_singleton.mpr trivial

lemma named_comment (h : r.comment s = some (ps, r', rest)) : ∀ p ∈ ps, p.Named := by
  obtain ⟨_, _, h⟩ := Option.bind_eq_some_iff.mp h
  cases h
  exact List.forall_mem_singleton.mpr trivial

lemma named_characterData (h : r.characterData s = some (ps, r', rest)) : ∀ p ∈ ps, p.Named := by
  obtain ⟨_, _, h⟩ := Option.bind_eq_some_iff.mp h
  cases h
  exact named_textPiece _

lemma named_openTag (h : r.openTag s = some (ps, r', rest)) : ∀ p ∈ ps, p.Named := by
  obtain ⟨⟨t, _⟩, ht, h⟩ := Option.bind_eq_some_iff.mp h
  have hopening : (Piece.opening (Scope.tagOf (bindingsOf t.attributes :: r.scope) t)).Named :=
    isElementName_startTag? ht
  dsimp only at h
  split at h <;> cases h
  · exact List.forall_mem_singleton.mpr hopening
  · exact List.forall_mem_cons.mpr ⟨hopening, List.forall_mem_singleton.mpr trivial⟩
  · exact List.forall_mem_singleton.mpr hopening

lemma named_closeTag (h : r.closeTag s = some (ps, r', rest)) : ∀ p ∈ ps, p.Named := by
  unfold closeTag at h
  split at h <;> cases h
  exact List.forall_mem_singleton.mpr trivial

lemma named_content (h : r.content s = some (ps, r', rest)) : ∀ p ∈ ps, p.Named := by
  unfold content at h
  split at h
  · exact named_closeTag h
  · exact named_instruction h
  · exact named_comment h
  · exact named_characterData h
  · split_ifs at h
    cases h
    exact List.forall_mem_nil _
  · exact named_openTag h
  · cases h
    exact named_textPiece _
  · cases h
    exact named_textPiece _

lemma named_outside (h : r.outside s = some (ps, r', rest)) : ∀ p ∈ ps, p.Named := by
  unfold outside at h
  split at h
  · exact named_instruction h
  · exact named_comment h
  · split_ifs at h
    · cases h
      exact List.forall_mem_nil _
    · exact named_openTag h
  · cases h

lemma named_run (r : Reader) (fuel : Nat) (s : List Char) : ∀ p ∈ r.run fuel s, p.Named := by
  induction fuel generalizing r s with
  | zero => exact List.forall_mem_nil _
  | succ fuel ih =>
    cases s with
    | nil => exact List.forall_mem_nil _
    | cons c s =>
      rw [run]
      split
      · exact List.forall_mem_nil _
      next ps r' rest hstep =>
        refine List.forall_mem_append.mpr ⟨?_, ih r' rest⟩
        split_ifs at hstep
        · exact named_outside hstep
        · exact named_content hstep
      · exact nofun

end Reader

lemma named_pieces (s : List Char) : ∀ p ∈ pieces s, p.Named := Reader.named_run _ _ _

end Xml

namespace Document

lemma named_pieces {d : Dialect} {s : List Char} {ps : List Piece} (h : d.pieces s = .ok ps) : ∀ p ∈ ps, p.Named := by
  cases d with
  | asWritten => exact Fragment.named_pieces h
  | page => exact Page.named_pieces h
  | xml =>
    cases h
    exact Xml.named_pieces s

theorem named_read {d : Dialect} {text : List Char} {t : Tree Unit} (h : read d text = .ok t) :
    ∀ c ∈ t.children, c.Named := by
  obtain ⟨ps, hps, rfl⟩ := map_eq_ok h
  exact named_ofPieces (named_pieces hps)

end Document

end PageStencil.Markup
