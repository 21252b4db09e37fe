import BracketMark.Proofs.Markup.Events
import BracketMark.Proofs.Markup.Layout

/-!
# What closes a tag

A tag of the forest was closed by the text: by a closing tag of its own name behind its opening
tag, or by one that closes a tag around it.  The end of the text closes none, since nothing is
open there any more.

Whether an opening is closable is settled for its name alone, while the stack mixes the names and
keeps to the limit.  What joins the two is a count.  Of each name, the tags that are open are never
more than the closings that the rest of the text leaves free (`Nest.Served`).  An opening that is
pushed takes one of these, one that stays text takes none, and a closing that leaves others open
takes none from them.  At the end no closing is left, so no tag is open.

To speak of one opening of a text and of what becomes of it, the nest is looked at where reading
has come to it (`Nest.between`), and the forest from left to right, as events.
-/

namespace BracketMark
namespace Markup

namespace Nest

/-! ## Between tokens -/

/-- The nest behind some tokens of a text, when others follow. -/
def between (limit : Nat) (before after : List Token) : Nest :=
  Nest.empty.run limit (marksBefore before after)

theorem between_append (limit : Nat) (before middle after : List Token) :
    between limit (before ++ middle) after =
      (between limit before (middle ++ after)).run limit (marksBefore middle after) := by
  rw [between, marksBefore_append, run_append, ← between]

theorem between_concat (limit : Nat) (before : List Token) (token : Token) (after : List Token) :
    between limit (before ++ [token]) after =
      (between limit before (token :: after)).step limit token (token.closableBefore after) :=
  between_append limit before [token] after

theorem nestTokens_eq (limit : Nat) (before after : List Token) :
    nestTokens limit (before ++ after) =
      ((between limit before after).run limit (withMarks after)).finish := by
  rw [nestTokens, zip_closable, withMarks_append, run_append, ← between]

/-! ## Closing through a tag -/

/-- What a closing tag leaves open is what was open around the innermost tag of its name. -/
theorem exists_stack_closeThrough {name : String} {stack : List OpenTag}
    (hopen : stack.any (·.opening.name == name) = true) (current : List Node) :
    ∃ inner outer, stack = inner ++ outer :: (closeThrough name current stack).stack ∧
      outer.opening.name = name := by
  induction stack generalizing current with
  | nil => cases hopen
  | cons tag stack ih =>
    rw [closeThrough]
    split
    case isTrue hname => exact ⟨[], tag, rfl, hname⟩
    case isFalse hname =>
      rw [List.any_cons, beq_eq_false_iff_ne.2 hname, Bool.false_or] at hopen
      obtain ⟨inner, outer, hstack, houter⟩ :=
        ih hopen (.tagged tag.opening current.reverse :: tag.before)
      refine ⟨tag :: inner, outer, ?_, houter⟩
      rw [List.cons_append, ← hstack]

/-! ## Open tags and free closings -/

/-- How many open tags have this name. -/
def countOpen (name : String) (stack : List OpenTag) : Nat :=
  stack.countP (·.opening.name == name)

/-- Of each name, no more tags are open than the tokens leave closings free. -/
def Served (nest : Nest) (tokens : List Token) : Prop :=
  ∀ name, countOpen name nest.stack ≤ surplus tokens name

theorem countOpen_cons (name : String) (tag : OpenTag) (stack : List OpenTag) :
    countOpen name (tag :: stack) =
      countOpen name stack + if name = tag.opening.name then 1 else 0 := by
  rw [countOpen, List.countP_cons]
  by_cases hname : name = tag.opening.name
  · rw [if_pos hname, if_pos (beq_iff_eq.2 hname.symm)]
    rfl
  · rw [if_neg hname, if_neg (fun h => hname (beq_iff_eq.1 h).symm)]
    rfl

theorem countOpen_append (name : String) (inner stack : List OpenTag) :
    countOpen name (inner ++ stack) = countOpen name inner + countOpen name stack :=
  List.countP_append ..

/-- No tag of a name is open that no tag of the stack has. -/
theorem countOpen_of_not_isOpen {nest : Nest} {name : String} (h : nest.isOpen name = false) :
    countOpen name nest.stack = 0 :=
  List.countP_eq_zero.2 fun tag htag => List.any_eq_false.1 h tag htag

theorem served_empty (tokens : List Token) : Nest.empty.Served tokens :=
  fun _ => Nat.zero_le _

/-- **One token**: the tags that are open behind it are served by the tokens that are left. -/
theorem Served.step {nest : Nest} {token : Token} {rest : List Token}
    (h : nest.Served (token :: rest)) (limit : Nat) :
    (nest.step limit token (token.closableBefore rest)).Served rest := by
  intro name
  have hname := h name
  cases token with
  | text raw => exact hname
  | malformed raw => exact hname
  | opening raw tag =>
    rw [surplus_cons_opening] at hname
    rw [Nest.step]
    split
    case isTrue hpush =>
      -- the opening is closable, so a closing is free and it takes that one
      have hfree : 0 < surplus rest tag.name :=
        of_decide_eq_true (Bool.and_eq_true_iff.1 hpush).1
      rw [push, countOpen_cons]
      by_cases heq : name = tag.name
      · rw [if_pos heq] at hname ⊢
        rw [heq] at hname ⊢
        omega
      · rw [if_neg heq] at hname ⊢
        exact hname
    case isFalse =>
      refine Nat.le_trans hname ?_
      split
      case isTrue heq =>
        rw [heq]
        exact Nat.sub_le ..
      case isFalse => exact Nat.le_refl _
  | closing raw closed =>
    rw [surplus_cons_closing] at hname
    rw [Nest.step]
    split
    case isTrue hopen =>
      obtain ⟨inner, outer, hstack, houter⟩ := exists_stack_closeThrough hopen nest.current
      rw [hstack, countOpen_append, countOpen_cons, houter] at hname
      by_cases heq : name = closed
      · rw [if_pos heq] at hname
        rw [if_pos heq] at hname
        rw [heq] at hname ⊢
        omega
      · rw [if_neg heq, if_neg heq] at hname
        omega
    case isFalse hopen =>
      by_cases heq : name = closed
      · rw [heq, addText, countOpen_of_not_isOpen (Bool.eq_false_iff.2 hopen)]
        exact Nat.zero_le _
      · rw [if_neg heq] at hname
        exact hname

/-- **All tokens.** -/
theorem Served.run {nest : Nest} {tokens : List Token} (h : nest.Served tokens) (limit : Nat) :
    (nest.run limit (withMarks tokens)).Served [] := by
  induction tokens generalizing nest with
  | nil => exact h
  | cons token rest ih => exact ih (h.step limit)

/-- Behind the last token nothing is free. -/
theorem Served.stack_eq_nil {nest : Nest} (h : nest.Served []) : nest.stack = [] := by
  cases hstack : nest.stack with
  | nil => rfl
  | cons tag stack =>
    have hcount := h tag.opening.name
    rw [hstack, countOpen_cons, if_pos rfl] at hcount
    exact absurd hcount (Nat.not_succ_le_zero _)

theorem stack_run_empty (limit : Nat) (tokens : List Token) :
    (Nest.empty.run limit (withMarks tokens)).stack = [] :=
  ((served_empty tokens).run limit).stack_eq_nil

/-! ## How a tag ends -/

/-- `Ends nest opening name reached left`: the tag that the opening begins in `nest` is a tag of
    the forest.  It is still open in `reached`, and the closing tag of this name that leads from
    there to `left` ends it: as its own, or as that of a tag around it. -/
structure Ends (nest : Nest) (opening : Opening) (name : String) (reached left : Nest) : Prop where
  /-- The whole tag is there behind the closing tag, and before it not yet. -/
  complete : ∃ children,
    reached.events <+: nest.events ++ .enter opening :: Markup.events children ∧
      nest.events ++ (Node.tagged opening children).events <+: left.events
  closes : name = opening.name ∧ left.stack = nest.stack ∨
    name ≠ opening.name ∧ ∃ inner outer, nest.stack = inner ++ outer :: left.stack ∧
      outer.opening.name = name

/-- The tag that an opening begins in a nest, while it is open. -/
def opened (nest : Nest) (opening : Opening) : OpenTag := ⟨opening, nest.current⟩

/-- A closing tag that is met while the tag is open ends it, or ends only tags inside it. -/
theorem ends_closeThrough {nest : Nest} {opening : Opening} {name : String}
    {inner : List OpenTag} {current : List Node}
    (hopen : (inner ++ nest.opened opening :: nest.stack).any (·.opening.name == name) = true) :
    let stack := inner ++ nest.opened opening :: nest.stack
    nest.opened opening :: nest.stack <:+ (closeThrough name current stack).stack ∨
      Ends nest opening name ⟨current, stack⟩ (closeThrough name current stack) := by
  induction inner generalizing current with
  | nil =>
    refine Or.inr ?_
    have hreached : (⟨current, nest.opened opening :: nest.stack⟩ : Nest).events =
        nest.events ++ .enter opening :: Markup.events current.reverse := by
      simp [events, openEvents, opened]
    have hnode : nest.events ++ (Node.tagged opening current.reverse).events =
        (⟨.tagged opening current.reverse :: nest.current, nest.stack⟩ : Nest).events := by
      rw [events, events, events_reverse_cons, List.append_assoc]
    rw [List.nil_append, closeThrough]
    split
    case isTrue hname =>
      exact ⟨⟨current.reverse, hreached ▸ List.prefix_rfl, hnode ▸ List.prefix_rfl⟩,
        Or.inl ⟨hname.symm, rfl⟩⟩
    case isFalse hname =>
      have hrest : nest.stack.any (·.opening.name == name) = true := by
        rw [List.nil_append, List.any_cons, beq_eq_false_iff_ne.2 hname, Bool.false_or] at hopen
        exact hopen
      refine ⟨⟨current.reverse, hreached ▸ List.prefix_rfl, ?_⟩,
        Or.inr ⟨Ne.symm hname, exists_stack_closeThrough hrest _⟩⟩
      rw [hnode]
      exact (List.prefix_append _ _).trans (events_closeThrough hrest)
  | cons tag inner ih =>
    show _ <:+ (closeThrough name current (tag :: (inner ++ _))).stack ∨
      Ends nest opening name ⟨current, tag :: (inner ++ _)⟩
        (closeThrough name current (tag :: (inner ++ _)))
    rw [closeThrough]
    split
    case isTrue => exact Or.inl (List.suffix_append inner _)
    case isFalse hname =>
      have hrest : (inner ++ nest.opened opening :: nest.stack).any
          (·.opening.name == name) = true := by
        rw [List.cons_append, List.any_cons, beq_eq_false_iff_ne.2 hname, Bool.false_or] at hopen
        exact hopen
      refine (ih hrest).imp_right fun h => ⟨?_, h.closes⟩
      -- closing the inner tag only adds to what is read
      obtain ⟨children, hreached, hnode⟩ := h.complete
      rw [events_closed] at hreached
      exact ⟨children, (List.prefix_append _ _).trans hreached, hnode⟩

/-- **One token** leaves an open tag open or ends it. -/
theorem ends_step {nest reached : Nest} {opening : Opening}
    (hopen : nest.opened opening :: nest.stack <:+ reached.stack) (limit : Nat) (token : Token)
    (mark : Bool) :
    nest.opened opening :: nest.stack <:+ (reached.step limit token mark).stack ∨
      ∃ raw name, token = .closing raw name ∧
        Ends nest opening name reached (reached.step limit token mark) := by
  cases token with
  | text raw => exact Or.inl hopen
  | malformed raw => exact Or.inl hopen
  | opening raw tag =>
    rw [step]
    split
    case isTrue => exact Or.inl (hopen.trans (List.suffix_cons _ _))
    case isFalse => exact Or.inl hopen
  | closing raw name =>
    rw [step]
    split
    case isTrue hname =>
      obtain ⟨current, stack⟩ := reached
      obtain ⟨inner, rfl⟩ := hopen
      exact (ends_closeThrough hname).imp_right fun h => ⟨raw, name, rfl, h⟩
    case isFalse => exact Or.inl hopen

/-- **A tag that is open at no end of the tokens was ended by one of them.** -/
theorem exists_ends {nest reached : Nest} {opening : Opening} {limit : Nat} {tokens : List Token}
    (hopen : nest.opened opening :: nest.stack <:+ reached.stack)
    (hend : (reached.run limit (withMarks tokens)).stack = []) :
    ∃ inside raw name rest, tokens = inside ++ .closing raw name :: rest ∧
      let closed := reached.run limit (marksBefore inside (.closing raw name :: rest))
      Ends nest opening name closed (closed.step limit (.closing raw name) false) := by
  induction tokens generalizing reached with
  | nil =>
    rw [show reached.stack = [] from hend] at hopen
    exact absurd (List.suffix_nil.1 hopen) (List.cons_ne_nil _ _)
  | cons token rest ih =>
    rcases ends_step hopen limit token (token.closableBefore rest) with hstill | ⟨raw, name, rfl, h⟩
    · obtain ⟨inside, raw, name, after, rfl, h⟩ := ih hstill hend
      exact ⟨token :: inside, raw, name, after, rfl, h⟩
    · exact ⟨[], raw, name, rest, rfl, h⟩

/-! ## Tags and their openings -/

/-- What is read up to an event that is not among the last ones is read without them. -/
theorem prefix_of_not_mem {front events more : List Event} {event : Event}
    (h : front ++ [event] <+: events ++ more) (hmore : event ∉ more) :
    front ++ [event] <+: events := by
  rcases List.prefix_or_prefix_of_prefix h (List.prefix_append events more) with hshort | hlong
  · exact hshort
  · rcases List.prefix_concat_iff.1 hlong with heq | ⟨middle, rfl⟩
    · exact heq ▸ List.prefix_rfl
    · rw [List.append_assoc, List.prefix_append_right_inj] at h
      exact absurd (h.subset (List.mem_append_right _ List.mem_cons_self)) hmore

theorem exists_leaves_closeThrough (name : String) (current : List Node) (stack : List OpenTag) :
    ∃ count, (closeThrough name current stack).events =
      (⟨current, stack⟩ : Nest).events ++ List.replicate count .leave := by
  induction stack generalizing current with
  | nil => exact ⟨0, (List.append_nil _).symm⟩
  | cons tag stack ih =>
    rw [closeThrough]
    split
    case isTrue => exact ⟨1, events_closed ..⟩
    case isFalse =>
      obtain ⟨count, hcount⟩ := ih (.tagged tag.opening current.reverse :: tag.before)
      refine ⟨count + 1, ?_⟩
      rw [hcount, events_closed, List.append_assoc, List.replicate_succ, List.singleton_append]

/-- **One token** enters a tag only if it is its opening tag. -/
theorem enter_step {nest : Nest} {limit : Nat} {token : Token} {mark : Bool}
    {front : List Event} {opening : Opening}
    (h : front ++ [.enter opening] <+: (nest.step limit token mark).events) :
    front ++ [.enter opening] <+: nest.events ∨
      ∃ raw, token = .opening raw opening ∧ front = nest.events := by
  have haddText {text : String} (h : front ++ [.enter opening] <+: (nest.addText text).events) :
      front ++ [.enter opening] <+: nest.events := by
    rw [events_addText] at h
    exact prefix_of_not_mem h (by simp)
  cases token with
  | text raw => exact Or.inl (haddText h)
  | malformed raw => exact Or.inl (haddText h)
  | opening raw tag =>
    rw [step] at h
    split at h
    case isTrue =>
      rw [events_push] at h
      rcases List.prefix_concat_iff.1 h with heq | hbefore
      · obtain ⟨hfront, htag⟩ := List.append_inj' heq rfl
        obtain rfl : opening = tag := Event.enter.inj (List.cons.inj htag).1
        exact Or.inr ⟨raw, rfl, hfront⟩
      · exact Or.inl hbefore
    case isFalse => exact Or.inl (haddText h)
  | closing raw name =>
    rw [step] at h
    split at h
    case isTrue =>
      obtain ⟨count, hcount⟩ := exists_leaves_closeThrough name nest.current nest.stack
      rw [hcount] at h
      exact Or.inl (prefix_of_not_mem h (by simp))
    case isFalse => exact Or.inl (haddText h)

/-- **All tokens.** -/
theorem enter_run {nest : Nest} {limit : Nat} {tokens : List Token} {front : List Event}
    {opening : Opening}
    (h : front ++ [.enter opening] <+: (nest.run limit (withMarks tokens)).events) :
    front ++ [.enter opening] <+: nest.events ∨
      ∃ before raw after, tokens = before ++ .opening raw opening :: after ∧
        front = (nest.run limit (marksBefore before (.opening raw opening :: after))).events := by
  induction tokens generalizing nest with
  | nil => exact Or.inl h
  | cons token rest ih =>
    rcases ih h with hstep | ⟨before, raw, after, rfl, hfront⟩
    · refine (enter_step hstep).imp_right ?_
      rintro ⟨raw, rfl, hfront⟩
      exact ⟨[], raw, rest, rfl, hfront⟩
    · exact Or.inr ⟨token :: before, raw, after, rfl, hfront⟩

/-! ## Openings that become tags -/

theorem step_opening (nest : Nest) (limit : Nat) (raw : String) (opening : Opening)
    (after : List Token) :
    nest.step limit (.opening raw opening) (Token.closableBefore (.opening raw opening) after) =
      if 0 < surplus after opening.name ∧ nest.stack.length < limit then nest.push opening
      else nest.addText raw := by
  simp [step, Token.closableBefore]

theorem length_step_le (nest : Nest) (limit : Nat) (token : Token) (mark : Bool) :
    (nest.step limit token mark).stack.length ≤
      nest.stack.length + if token.isOpening then 1 else 0 := by
  cases token with
  | opening raw opening =>
    rw [step]
    split
    case isTrue => exact Nat.le_refl _
    case isFalse => exact Nat.le_succ _
  | closing raw name =>
    rw [step]
    split
    case isTrue hopen =>
      obtain ⟨inner, outer, hstack, -⟩ := exists_stack_closeThrough hopen nest.current
      have hlength := congrArg List.length hstack
      rw [List.length_append, List.length_cons] at hlength
      omega
    case isFalse => exact Nat.le_refl _
  | text raw => exact Nat.le_refl _
  | malformed raw => exact Nat.le_refl _

theorem length_run_le (nest : Nest) (limit : Nat) (before after : List Token) :
    (nest.run limit (marksBefore before after)).stack.length ≤
      nest.stack.length + before.countP Token.isOpening := by
  induction before generalizing nest with
  | nil => exact Nat.le_refl _
  | cons token before ih =>
    have hfirst := nest.length_step_le limit token (token.closableBefore (before ++ after))
    have hrest := ih (nest.step limit token (token.closableBefore (before ++ after)))
    rw [marksBefore, List.countP_cons]
    refine Nat.le_trans hrest ?_
    omega

end Nest

/-- In the forest of a text, the opening tag between these tokens is a tag: it stands there behind
    what the tokens before it have made. -/
def BecomesTag (limit : Nat) (before : List Token) (raw : String) (opening : Opening)
    (after : List Token) : Prop :=
  (Nest.between limit before (.opening raw opening :: after)).events ++ [.enter opening] <+:
    events (nestTokens limit (before ++ .opening raw opening :: after))

/-- **An opening tag becomes a tag exactly if a closing is free for it and it is not too deep.** -/
theorem becomesTag_iff {limit : Nat} {before after : List Token} {raw : String} {opening : Opening}
    (hraw : raw ≠ "") : BecomesTag limit before raw opening after ↔
      0 < surplus after opening.name ∧
        (Nest.between limit before (.opening raw opening :: after)).stack.length < limit := by
  rw [BecomesTag, Nest.nestTokens_eq]
  generalize Nest.between limit before (.opening raw opening :: after) = nest
  -- what the step adds stays in the forest
  have hforest : (nest.step limit (.opening raw opening)
      (Token.closableBefore (.opening raw opening) after)).events <+:
        events (nest.run limit (withMarks (.opening raw opening :: after))).finish :=
    (Nest.events_run _ limit (withMarks after)).trans (Nest.events_finish _)
  by_cases hpush : 0 < surplus after opening.name ∧ nest.stack.length < limit
  · refine iff_of_true ?_ hpush
    rw [Nest.step_opening, if_pos hpush, Nest.events_push] at hforest
    exact hforest
  · refine iff_of_false (fun hbecomes => ?_) hpush
    obtain ⟨c, cs, hcs⟩ := List.exists_cons_of_ne_nil fun hnil => hraw (String.toList_inj.1 hnil)
    rw [Nest.step_opening, if_neg hpush, Nest.events_addText, hcs] at hforest
    have hchar : nest.events ++ [.char c] <+: nest.events ++ (c :: cs).map .char :=
      (List.prefix_append_right_inj _).2 ⟨cs.map .char, rfl⟩
    have hchar := hchar.trans hforest
    exact Event.noConfusion (eq_of_common_events hbecomes hchar)

/-- Behind the last token no tag is open, so nothing is left to close. -/
theorem nestTokens_eq_reverse (limit : Nat) (tokens : List Token) :
    nestTokens limit tokens = (Nest.empty.run limit (withMarks tokens)).current.reverse := by
  rw [nestTokens, zip_closable, Nest.finish, Nest.stack_run_empty]
  rfl

/-- Every tag of a forest has its opening tag. -/
theorem exists_becomesTag {limit : Nat} {tokens : List Token} {front : List Event}
    {opening : Opening} (h : front ++ [.enter opening] <+: events (nestTokens limit tokens)) :
    ∃ before raw after, tokens = before ++ .opening raw opening :: after ∧
      front = (Nest.between limit before (.opening raw opening :: after)).events ∧
        BecomesTag limit before raw opening after := by
  have hevents : events (nestTokens limit tokens) =
      (Nest.empty.run limit (withMarks tokens)).events := by
    rw [nestTokens_eq_reverse, Nest.events, Nest.stack_run_empty, Nest.openEvents, List.nil_append]
  have hrun := hevents ▸ h
  rcases Nest.enter_run hrun with hnone | ⟨before, raw, after, rfl, rfl⟩
  · exact absurd (List.prefix_nil.1 hnone) (by simp)
  · exact ⟨before, raw, after, rfl, rfl, h⟩

/-- Every tag of a forest has a closing tag that ends it. -/
theorem BecomesTag.exists_ends {limit : Nat} {before after : List Token} {raw : String}
    {opening : Opening} (h : BecomesTag limit before raw opening after) (hraw : raw ≠ "") :
    ∃ inside closing name rest, after = inside ++ .closing closing name :: rest ∧
      Nest.Ends (Nest.between limit before (.opening raw opening :: after)) opening name
        (Nest.between limit (before ++ .opening raw opening :: inside)
          (.closing closing name :: rest))
        (Nest.between limit (before ++ .opening raw opening :: inside ++ [.closing closing name])
          rest) := by
  have hpush := Nest.step_opening (Nest.between limit before (.opening raw opening :: after))
    limit raw opening after
  rw [if_pos ((becomesTag_iff hraw).1 h)] at hpush
  have hend := Nest.stack_run_empty limit (before ++ .opening raw opening :: after)
  rw [withMarks_append, Nest.run_append, withMarks, Nest.run_cons] at hend
  rw [← Nest.between, hpush] at hend
  obtain ⟨inside, closing, name, rest, rfl, hends⟩ := Nest.exists_ends (List.suffix_refl _) hend
  refine ⟨inside, closing, name, rest, rfl, ?_⟩
  rw [Nest.between_concat, Nest.between_append, List.cons_append, marksBefore, Nest.run_cons,
    hpush]
  exact hends

/-- An opening that is not too deep for the openings before it becomes a tag if it is closable. -/
theorem becomesTag_of_surplus {limit : Nat} {before after : List Token} {raw : String}
    {opening : Opening} (hraw : raw ≠ "") (hroom : before.countP Token.isOpening < limit)
    (hfree : 0 < surplus after opening.name) : BecomesTag limit before raw opening after := by
  refine (becomesTag_iff hraw).2 ⟨hfree, Nat.lt_of_le_of_lt ?_ hroom⟩
  have hlength := Nest.empty.length_run_le limit before (.opening raw opening :: after)
  rwa [show Nest.empty.stack.length = 0 from rfl, Nat.zero_add] at hlength

/-- **Every tag is closed by the text.**  Behind the last token no tag is open, so the forest is
    what was read there.  Every tag of the forest is an opening tag of the text that becomes one,
    and every opening tag that does was ended by a closing tag behind it.  Where the limit leaves
    room for all, every opening tag becomes one for which the closings of its name outnumber the
    openings somewhere further on. -/
theorem closed_of_becomesTag (limit : Nat) (markup : String) :
    let read := Nest.empty.run limit ((tokens markup).zip (closable (tokens markup)))
    (read.stack = [] ∧ parse limit markup = read.current.reverse) ∧
    (∀ front opening, front ++ [.enter opening] <+: events (parse limit markup) →
      ∃ before raw after, tokens markup = before ++ .opening raw opening :: after ∧
        front = (Nest.between limit before (.opening raw opening :: after)).events ∧
          BecomesTag limit before raw opening after) ∧
    ∀ before raw opening after, tokens markup = before ++ .opening raw opening :: after →
      (BecomesTag limit before raw opening after →
        ∃ inside closing name rest, after = inside ++ .closing closing name :: rest ∧
          Nest.Ends (Nest.between limit before (.opening raw opening :: after)) opening name
            (Nest.between limit (before ++ .opening raw opening :: inside)
              (.closing closing name :: rest))
            (Nest.between limit (before ++ .opening raw opening :: inside ++ [.closing closing name])
              rest)) ∧
      ((tokens markup).countP Token.isOpening ≤ limit →
        (∃ front, front <+: after ∧ front.countP (Token.opens opening.name) <
          front.countP (Token.closes opening.name)) →
        BecomesTag limit before raw opening after) := by
  intro read
  have hread : read = Nest.empty.run limit (withMarks (tokens markup)) :=
    congrArg (Nest.empty.run limit) (zip_closable _)
  refine ⟨⟨?_, ?_⟩, fun front opening => exists_becomesTag, ?_⟩
  · rw [hread]
    exact Nest.stack_run_empty limit (tokens markup)
  · rw [hread]
    exact nestTokens_eq_reverse limit (tokens markup)
  · intro before raw opening after htokens
    have hmem : .opening raw opening ∈ tokens markup := by
      rw [htokens]
      exact List.mem_append_right _ List.mem_cons_self
    have hraw : raw ≠ "" := raw_ne_empty hmem
    refine ⟨fun hbecomes => hbecomes.exists_ends hraw, fun hroom hfront => ?_⟩
    rw [htokens, List.countP_append, List.countP_cons_of_pos rfl] at hroom
    exact becomesTag_of_surplus hraw (by omega) (lt_surplus_iff.2 hfront)

/-- The closing tag of the outer one ends the inner one, whose own then closes nothing. -/
theorem closed_of_becomesTag_crossed :
    let italic : Opening := ⟨"i", none, .empty⟩
    let before : List Token := [.opening "[b]" ⟨"b", none, .empty⟩]
    let after : List Token := [.text "x", .closing "[/b]" "b", .closing "[/i]" "i"]
    BecomesTag 2 before "[i]" italic after ∧
      ∃ inside closing name rest, after = inside ++ .closing closing name :: rest ∧
        Nest.Ends (Nest.between 2 before (.opening "[i]" italic :: after)) italic name
          (Nest.between 2 (before ++ .opening "[i]" italic :: inside) (.closing closing name :: rest))
          (Nest.between 2 (before ++ .opening "[i]" italic :: inside ++ [.closing closing name])
            rest) := by
  intro italic before after
  have htokens : tokens "[b][i]x[/b][/i]" = before ++ .opening "[i]" italic :: after := by
    decide +kernel
  obtain ⟨hended, hbecomes⟩ :=
    (closed_of_becomesTag 2 "[b][i]x[/b][/i]").2.2 before "[i]" italic after htokens
  have htag : BecomesTag 2 before "[i]" italic after :=
    hbecomes (by rw [htokens]; decide) ⟨after, List.prefix_rfl, by decide⟩
  exact ⟨htag, hended htag⟩

end Markup
end BracketMark
