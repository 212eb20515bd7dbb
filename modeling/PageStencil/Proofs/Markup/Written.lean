import PageStencil.Markup.Indented
import PageStencil.Proofs.Markup.Root

namespace PageStencil.Markup

variable {α : Type}

lemma mem_insertByName {a b : String × Value} {as : List (String × Value)} (h : b ∈ insertByName a as) :
    b = a ∨ b ∈ as := by
  induction as with
  | nil => exact .inl (List.mem_singleton.mp h)
  | cons c cs ih =>
    rw [insertByName] at h
    split_ifs at h
    · exact List.mem_cons.mp h
    · rcases List.mem_cons.mp h with rfl | h
      · exact .inr List.mem_cons_self
      · exact (ih h).imp_right (List.mem_cons_of_mem c)

lemma mem_sortByName {a : String × Value} {as : List (String × Value)} (h : a ∈ sortByName as) : a ∈ as := by
  induction as with
  | nil => exact h
  | cons b bs ih =>
    rcases mem_insertByName h with rfl | h
    · exact List.mem_cons_self
    · exact List.mem_cons_of_mem b (ih h)

lemma eventsOfAll_eq (xml : Bool) (parent : String) (ts : List (Tree α)) :
    Tree.eventsOfAll xml parent ts = ts.flatMap (Tree.eventsBelow xml parent) := by
  induction ts with
  | nil => rfl
  | cons t ts ih => rw [Tree.eventsOfAll, ih, List.flatMap_cons]

namespace Tree

def written (pretty : Bool) (t : Tree α) : String := if pretty then t.indentedHtml else t.html

lemma eventsBelow_erase (xml : Bool) (parent : String) (t : Tree α) :
    t.erase.eventsBelow xml parent = t.eventsBelow xml parent := by
  induction t using ind generalizing parent with
  | hleaf l c => rfl
  | helement l tag cs ih =>
    have hbelow : (cs.map erase).flatMap (eventsBelow xml tag.name) = cs.flatMap (eventsBelow xml tag.name) := by
      rw [List.flatMap_map]
      exact List.flatMap_congr fun c hc => ih c hc tag.name
    rw [erase, eventsBelow, eventsBelow, eventsOfAll_eq, eventsOfAll_eq, eraseAll_eq, hbelow, List.isEmpty_map]

lemma events_erase (t : Tree α) : t.erase.events = t.events := by
  have htag : t.erase.tag? = t.tag? := by cases t <;> rfl
  rw [events, events, htag, eventsBelow_erase]

lemma written_erase (pretty : Bool) (t : Tree α) : t.erase.written pretty = t.written pretty := by
  rw [written, written, indentedHtml, indentedHtml, html, html, events_erase]

end Tree

end PageStencil.Markup
