import PageStencil.Proofs.Outline.Sheet

/-!
Outlines written from menus. However the lines are joined, and whatever blank lines stand between them, reading the
text gives the menu back in both modes; and what is read from any text is built from labels that can be written.
-/

namespace PageStencil.Outline

open Entry Menu Text

/-- A text whose lines, apart from blank ones, say the title and then the entries, each at its depth. -/
def Written (base unit : Nat) (title : Option Link) (ms : List Menu) (text : String) : Prop :=
  ∃ all, JoinsTo all text.toList ∧ List.Forall₂ Writes (sheet base unit title ms) (all.filter isWritten)

section Numbering

variable {text : List Char}

lemma numbered_snd (ls : List (List Char)) (n : Nat) :
    ((ls.zipIdx n).filterMap fun (line, n) => if allBlank line then none else some (n, line)).map Prod.snd =
      ls.filter isWritten := by
  induction ls generalizing n with
  | nil => rfl
  | cons l ls ih =>
    rw [List.zipIdx_cons, List.filterMap_cons, List.filter_cons]
    cases hb : allBlank l with
    | true => simpa [hb, isWritten] using ih (n + 1)
    | false => simpa [hb, isWritten] using ih (n + 1)

lemma numberedLines_snd : (numberedLines text).map Prod.snd = (lines text).filter isWritten :=
  numbered_snd (lines text) 1

lemma readAs_of_lines {ls : List Lexeme} (h : List.Forall₂ (fun l line => ∀ number, Lexeme.ofLine number line = .ok l)
    ls ((lines text).filter isWritten)) : ReadAs (numberedLines text) ls := by
  rw [← numberedLines_snd, List.forall₂_map_right_iff] at h
  exact (h.imp fun l line hl => hl (some (line.1 : Int))).flip

lemma mem_numberedLines {line : Nat × List Char} (h : line ∈ numberedLines text) : '\n' ∉ line.2 := by
  have hm := List.mem_map_of_mem (f := Prod.snd) h
  rw [numberedLines_snd] at hm
  exact mem_lines_ne (List.mem_filter.mp hm).1

end Numbering

section Reading

variable {base unit : Nat} {title : Option Link} {ms : List Menu} {text : String}

lemma fits_lexemeAt {l : Link} (h : Writable l) (indentation : Nat) (marker : Marker) :
    Fits (lexemeAt indentation marker l).text (lexemeAt indentation marker l).href := by
  apply writable_link.mp
  rwa [lexemeAt_link h]

lemma Outlined.fits (h : Outlined ms) (ht : ∀ l ∈ title, Writable l) :
    ∀ x ∈ sheet base unit title ms, Fits x.text x.href := by
  intro x hx
  rcases List.mem_append.mp hx with hx | hx
  · obtain ⟨l, hl, rfl⟩ := Option.map_eq_some_iff.mp (Option.mem_toList.mp hx)
    exact fits_lexemeAt (ht l hl) base .title
  · obtain ⟨e, he, rfl⟩ := List.mem_map.mp hx
    exact fits_lexemeAt (h.writable 0 e he) _ .item

lemma forall_right {R : Lexeme → List Char → Prop} {p : List Char → Prop} {xs : List Lexeme} {ls : List (List Char)}
    (h : List.Forall₂ R xs ls) (hp : ∀ x l, R x l → p l) : ∀ l ∈ ls, p l := by
  induction h with
  | nil => simp
  | cons hr _ ih => exact List.forall_mem_cons.mpr ⟨hp _ _ hr, ih⟩

lemma Written.readAs (h : Written base unit title ms text) (ht : ∀ l ∈ title, Writable l) (hm : Outlined ms) :
    ReadAs (numberedLines text.toList) (sheet base unit title ms) := by
  obtain ⟨all, hj, hw⟩ := h
  have hfits := List.forall₂_and_left _ _ |>.mpr ⟨hm.fits ht, hw⟩
  have hlast := forall_right hfits fun x l ⟨hx, hl⟩ => hl.last hx
  have hlines : (lines text.toList).filter isWritten = all.filter isWritten := by
    apply written_lines hj
    intro l hl hlw
    exact hlast l (List.mem_filter.mpr ⟨hl, hlw⟩)
  apply readAs_of_lines
  rw [hlines]
  exact hfits.imp fun x l ⟨hx, hl⟩ => hl.ofLine hx

theorem Written.parse (h : Written base unit title ms text) (ht : ∀ l ∈ title, Writable l) (hm : Outlined ms)
    (hpos : 0 < unit) (strict : Bool) : parse strict text = .ok (.group title none ms) := by
  obtain ⟨d, hd, hmenu⟩ := hm.runs ht hpos strict
  exact parse_eq_ok_iff.mpr ⟨_, d, h.readAs ht hm, hd, hmenu.symm⟩

lemma exists_joined {ls : List (List Char)} (h : ∀ l ∈ ls, '\n' ∉ l) : ∃ s, JoinsTo (ls ++ [[]]) s := by
  induction ls with
  | nil => exact ⟨[], .last (by simp)⟩
  | cons l ls ih =>
    obtain ⟨hl, hls⟩ := List.forall_mem_cons.mp h
    obtain ⟨s, hs⟩ := ih hls
    exact ⟨_, .lf hl hs⟩

lemma exists_lines {xs : List Lexeme} (h : ∀ x ∈ xs, Fits x.text x.href) :
    ∃ ls, List.Forall₂ Writes xs ls ∧ ∀ l ∈ ls, '\n' ∉ l := by
  induction xs with
  | nil => exact ⟨[], .nil, by simp⟩
  | cons x xs ih =>
    obtain ⟨hx, hxs⟩ := List.forall_mem_cons.mp h
    obtain ⟨l, hl, hn⟩ := exists_writes hx
    obtain ⟨ls, hls, hns⟩ := ih hxs
    exact ⟨l :: ls, .cons hl hls, List.forall_mem_cons.mpr ⟨hn, hns⟩⟩

theorem exists_written (base unit : Nat) (ht : ∀ l ∈ title, Writable l) (hm : Outlined ms) :
    ∃ text, Written base unit title ms text := by
  obtain ⟨ls, hls, hn⟩ := exists_lines (hm.fits ht)
  obtain ⟨s, hs⟩ := exists_joined hn
  refine ⟨String.ofList s, ls ++ [[]], by rwa [String.toList_ofList], ?_⟩
  have hw : ls.filter isWritten = ls := List.filter_eq_self.mpr (forall_right hls fun _ _ h => h.isWritten)
  rw [List.filter_append, hw]
  simpa [isWritten, allBlank] using hls

end Reading

section Image

variable {strict : Bool} {text : String} {ls : List Lexeme} {m : Menu}

def StandsIn (text : String) (l : Link) : Prop :=
  ∃ line ∈ numberedLines text.toList, ∃ x, Lexeme.ofLine (some line.1) line.2 = .ok x ∧ x.link = l

lemma ReadAs.standsIn (h : ReadAs (numberedLines text.toList) ls) : ∀ l ∈ ls, StandsIn text l.link := by
  unfold StandsIn
  generalize numberedLines text.toList = lines at h
  induction h with
  | nil => simp
  | @cons line l lines ls hl _ ih =>
    refine List.forall_mem_cons.mpr ⟨⟨line, List.mem_cons_self, l, hl, rfl⟩, fun k hk => ?_⟩
    obtain ⟨other, hother, hread⟩ := ih k hk
    exact ⟨other, List.mem_cons_of_mem line hother, hread⟩

lemma StandsIn.writable {l : Link} (h : StandsIn text l) : Writable l := by
  obtain ⟨line, hline, x, hx, rfl⟩ := h
  exact writable_link.mpr (fits_of_ofLine (mem_numberedLines hline) hx)

lemma lastTitle_mem {l : Link} (h : lastTitle ls = some l) : ∃ x ∈ ls, x.link = l := by
  obtain ⟨x, hx, rfl⟩ := Option.map_eq_some_iff.mp h
  exact ⟨x, (List.mem_filter.mp (List.mem_of_getLast? hx)).1, rfl⟩

lemma rows_mem {r : Link × Bool} (h : r ∈ rows ls) : ∃ x ∈ ls, x.link = r.1 := by
  have hm := List.mem_map_of_mem (f := Prod.fst) h
  rw [rows_labels] at hm
  obtain ⟨x, hx, hl⟩ := List.mem_map.mp hm
  exact ⟨x, (List.mem_filter.mp hx).1, hl⟩

theorem parse_links (h : parse strict text = .ok m) :
    ∃ title ms, m = .group title none ms ∧ (∀ l ∈ title, StandsIn text l) ∧
      ∀ e ∈ preorderAll ms, e.cssClass = none ∧ ∃ l ∈ e.label, StandsIn text l := by
  obtain ⟨ls, d, hr, hd, rfl⟩ := parse_eq_ok_iff.mp h
  refine ⟨d.title, _, rfl, ?_, ?_⟩
  · intro l hl
    rw [hd.title, Option.or_none] at hl
    obtain ⟨x, hx, rfl⟩ := lastTitle_mem hl
    exact hr.standsIn x hx
  · intro e he
    have hf : Menu.face e ∈ (preorderAll d.menu.entries).map Menu.face := List.mem_map_of_mem he
    rw [hd.faces] at hf
    obtain ⟨r, hrow, hface⟩ := List.mem_map.mp hf
    obtain ⟨hlabel, hclass⟩ := Prod.mk.inj hface
    obtain ⟨x, hx, hl⟩ := rows_mem hrow
    exact ⟨(Prod.mk.inj hclass).1.symm, r.1, hlabel.symm, hl ▸ hr.standsIn x hx⟩

theorem parse_writable (h : parse strict text = .ok m) :
    ∃ title ms, m = .group title none ms ∧ (∀ l ∈ title, Writable l) ∧
      ∀ e ∈ preorderAll ms, e.cssClass = none ∧ ∃ l ∈ e.label, Writable l := by
  obtain ⟨title, ms, rfl, htitle, hms⟩ := parse_links h
  refine ⟨title, ms, rfl, fun l hl => (htitle l hl).writable, fun e he => ?_⟩
  obtain ⟨hclass, l, hl, hstands⟩ := hms e he
  exact ⟨hclass, l, hl, hstands.writable⟩

end Image

theorem round_trip :
    (∀ base unit title ms, 0 < unit → (∀ l ∈ title, Writable l) → Outlined ms →
      (∃ text, Written base unit title ms text) ∧
        ∀ text, Written base unit title ms text → ∀ strict, parse strict text = .ok (.group title none ms)) ∧
    (∀ strict text m, parse strict text = .ok m → ∃ title ms, m = .group title none ms ∧
      (∀ l ∈ title, Writable l) ∧ ∀ e ∈ preorderAll ms, e.cssClass = none ∧ ∃ l ∈ e.label, Writable l) ∧
    ∀ l, Writable l ↔ ∃ number line x, '\n' ∉ line ∧ Lexeme.ofLine number line = .ok x ∧ x.link = l := by
  refine ⟨?_, ?_, writable_iff⟩
  · intro base unit title ms hpos ht hm
    refine ⟨exists_written base unit ht hm, ?_⟩
    intro text h strict
    exact h.parse ht hm hpos strict
  · intro strict text m h
    exact parse_writable h

def sample : String := " # t\r\n \n - a[b](/x)\n   - c"

def sampleTitle : Link := { text := some "t" }

def sampleMenus : List Menu :=
  [.group (some { text := some "ab", href := some "/x" }) none [.item (some { text := some "c" }) none]]

lemma fits_plain (text : String) (hl : '\n' ∉ text.toList) (ht : Tight text.toList) (ha : Apart text.toList) :
    Fits text none := ⟨hl, ht, ha, by simp, by simp, by simp⟩

lemma writable_plain (text : String) (hl : '\n' ∉ text.toList) (ht : Tight text.toList) (ha : Apart text.toList) :
    Writable { text := some text } := ⟨text, none, rfl, fits_plain text hl ht ha⟩

lemma sampleTitle_writable : ∀ l ∈ some sampleTitle, Writable l := by
  rintro _ ⟨⟩
  exact writable_plain "t" (by decide) (tight_iff.mpr rfl) (by unfold Apart; decide)

lemma sampleMenus_outlined : Outlined sampleMenus := by
  have hab : Writable { text := some "ab", href := some "/x" } := by
    refine ⟨"ab", some "/x", rfl, by decide, tight_iff.mpr rfl, by unfold Apart; decide, by decide, ?_, by decide⟩
    rintro _ ⟨⟩
    exact tight_iff.mpr rfl
  have hc : Writable { text := some "c" } :=
    writable_plain "c" (by decide) (tight_iff.mpr rfl) (by unfold Apart; decide)
  exact .group hab (List.cons_ne_nil _ _) (.item hc .nil) .nil

lemma sample_written : Written 1 2 (some sampleTitle) sampleMenus sample := by
  refine ⟨[" # t".toList, " ".toList, " - a[b](/x)".toList, "   - c".toList], ?_, ?_⟩
  · exact .crlf (by decide) (.lf (by decide) (.lf (by decide) (.last (by decide))))
  · have ht : Writes ⟨1, .title, "t", none⟩ " # t".toList :=
      .intro (w := [' ']) (by simp [Indent]) .title (.plain (by decide))
    have hab : Writes ⟨1, .item, "ab", some "/x"⟩ " - a[b](/x)".toList :=
      .intro (w := [' ']) (by simp [Indent]) .item (.linked (p := ['a']) (q := ['b']) (by decide) (by decide))
    have hc : Writes ⟨3, .item, "c", none⟩ "   - c".toList :=
      .intro (w := [' ', ' ', ' ']) (by simp [Indent]) .item (.plain (by decide))
    exact .cons ht (.cons hab (.cons hc .nil))

theorem sample_round_trip : Written 1 2 (some sampleTitle) sampleMenus sample ∧
    parse true sample = .ok (.group (some sampleTitle) none sampleMenus) ∧
      ∃ title ms, Menu.group (some sampleTitle) none sampleMenus = .group title none ms ∧
        (∀ l ∈ title, Writable l) ∧ ∀ e ∈ preorderAll ms, e.cssClass = none ∧ ∃ l ∈ e.label, Writable l := by
  have hall := round_trip.1 1 2 (some sampleTitle) sampleMenus (by decide) sampleTitle_writable sampleMenus_outlined
  have hparse := hall.2 sample sample_written true
  exact ⟨sample_written, hparse, round_trip.2.1 true sample _ hparse⟩

end PageStencil.Outline
