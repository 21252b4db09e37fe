import BracketMark.Proofs.Document.Uses

/-!
# Sessions

Templates are used over and over, for trees, alone, and to see whether there are any, while the
world that their source lives in changes.  This is what then holds, after any such turns and
whatever the source answers (`session_resolvesOnce`).

A name is asked for whenever it is used, by a tag or by the template of another name, until an
answer compiles for the first time.  This answer is the template of the name for good: the name is
never asked for again, and every use of it gives what it would give if nothing were kept and the
source still gave this answer.
-/

namespace BracketMark
namespace Document

open Html Tag Template

variable {lang : Language} {σ : Type}

/-- What happens in a session: templates are used, or the world changes. -/
inductive Turn (σ : Type) where
  | use (use : Use)
  | change (f : σ → σ)

/-- Turns one after another, with the replies to the uses in order. -/
def play (source : Source σ) :
    List (Turn σ) → Store lang × σ → List Reply × Store lang × σ
  | [], held => ([], held)
  | .use use :: turns, held =>
    let (reply, held) := use.perform source held
    let (replies, held) := play source turns held
    (reply :: replies, held)
  | .change f :: turns, held => play source turns (held.1, f held.2)

/-- A turn in a world with a record. -/
def Turn.recorded : Turn σ → Turn (σ × List Asking)
  | .use action => .use action
  | .change f => .change fun world => (f world.1, world.2)

/-- A session from the beginning, when nothing is kept, with a record of what is asked. -/
def session (lang : Language) (source : Source σ) (world : σ) (turns : List (Turn σ)) :
    List Reply × Store lang × σ × List Asking :=
  play (recorded source) (turns.map Turn.recorded) (.empty, world, [])

/-! ## Many turns -/

theorem play_append (source : Source σ) (turns more : List (Turn σ)) (held : Store lang × σ) :
    (play source (turns ++ more) held).2 = (play source more (play source turns held).2).2 := by
  induction turns generalizing held with
  | nil => rfl
  | cons turn turns ih =>
    cases turn with
    | use use => exact ih (use.perform source held).2
    | change f => exact ih (held.1, f held.2)

/-- A record changes nothing. -/
theorem play_recorded (source : Source σ) (turns : List (Turn σ))
    (held : Store lang × σ × List Asking) :
    let played := play (recorded source) (turns.map Turn.recorded) held
    play source turns (held.1, held.2.1) = (played.1, played.2.1, played.2.2.1) := by
  induction turns generalizing held with
  | nil => rfl
  | cons turn turns ih =>
    cases turn with
    | change f => exact ih (held.1, f held.2.1, held.2.2)
    | use use =>
      have hsame := use.alike (fun name _ => fetchAlike_recorded source name)
        (rfl : (held.1, held.2.1) = _)
      match hfirst : use.perform (recorded source) held with
      | (reply, next) =>
        have hplain : use.perform source (held.1, held.2.1) = (reply, next.1, next.2.1) := by
          rw [hfirst] at hsame
          exact Prod.ext hsame.1.symm hsame.2
        have hrest := ih next
        simp only [List.map_cons, Turn.recorded, play, hfirst, hplain, hrest]

/-- What every fetching and every change preserve every session preserves. -/
theorem play_preserves {source : Source σ} {I : Store lang × σ × List Asking → Prop}
    (hfetch : ∀ name held result next, Fetches source name held result next → I held → I next)
    (hchange : ∀ held world, I held → I (held.1, world, held.2.2)) (turns : List (Turn σ))
    {held : Store lang × σ × List Asking} (h : I held) :
    I (play (recorded source) (turns.map Turn.recorded) held).2 := by
  induction turns generalizing held with
  | nil => exact h
  | cons turn turns ih =>
    cases turn with
    | use use =>
      exact ih ((use.fetchesAll source held).preserves hfetch h)
    | change f => exact ih (hchange held (f held.2.1) h)

theorem session_append (lang : Language) (source : Source σ) (world : σ)
    (turns more : List (Turn σ)) :
    (session lang source world (turns ++ more)).2 =
      (play (recorded source) (more.map Turn.recorded) (session lang source world turns).2).2 := by
  rw [session, List.map_append, play_append, session]

theorem explained_session (lang : Language) (source : Source σ) (world : σ)
    (turns : List (Turn σ)) : Explained (session lang source world turns).2 :=
  play_preserves (fun _ _ _ _ hfetches hheld => hheld.fetches hfetches) (fun _ _ hheld => hheld)
    turns (explained_empty world)

/-! ## One more use -/

section

variable {source : Source σ} {held : Store lang × σ × List Asking}

/-- A use gives what it gives if nothing is kept and the first answers are given again. -/
theorem perform_firstAnswers (source : Source σ) (h : Explained held) (use : Use) :
    (use.perform (recorded source) held).1 =
      (use.perform (firstAnswers lang held.2.2 source) ((.empty : Store lang), held.2.1)).1 := by
  have hagrees : AgreesOnAll source (firstAnswers lang held.2.2 source) held (.empty, held.2.1) :=
    ⟨rfl, fun name => agrees_firstAnswers rfl (h name)⟩
  exact (use.alike (fun name _ => fetchAlike_of_agrees source _ name) hagrees).1

/-- A use of names that are kept gives the same wherever the same is kept, and asks nothing. -/
theorem perform_of_kept {later : Store lang × σ × List Asking} {use : Use}
    (h : ∀ name ∈ use.used (recorded source) held, ∃ template,
      held.1.get? name = some template ∧ later.1.get? name = some template) :
    use.perform (recorded source) later = ((use.perform (recorded source) held).1, later) := by
  have hstay : ∀ name ∈ use.used (recorded source) held,
      FetchAlike (fun first second => first = held ∧ second = later) (recorded source)
        (recorded source) name := by
    intro name hmem
    obtain ⟨template, hget, hlater⟩ := h name hmem
    exact fetchAlike_of_kept hget hlater
  obtain ⟨hreply, -, hheld⟩ := use.alike hstay ⟨rfl, rfl⟩
  exact Prod.ext hreply.symm hheld

end

/-! ## The first answer -/

/-- **The first answer that compiles is the template of a name for good**, in any language.  After
    any turns: the record has changed nothing, and what is kept for a name is the template of the
    last answer to it, all answers before having failed, or nothing if all have.  A use then gives
    what it gives if nothing is kept and the source gives those answers again, and it fetches the
    templates of the names that it comes to, one after another: those that are kept without asking
    for them, each other one by asking once.  After any more turns, what was kept is kept and was
    not asked for again, and to apply it by name is to apply the template that is kept; and a use
    that came to no other names gives what it gave, and asks nothing. -/
theorem session_resolvesOnce {source : Source σ} {world now : σ} {turns : List (Turn σ)}
    {replies : List Reply} {store : Store lang} {asked : List Asking}
    (h : session lang source world turns = (replies, store, now, asked)) :
    play source turns (.empty, world) = (replies, store, now) ∧
    (∀ name, Settles name (answersFor name asked) (store.get? name)) ∧
    (∀ (use : Use) reply store' now' asked',
      use.perform (recorded source) (store, now, asked) = (reply, store', now', asked') →
      reply = (use.perform (firstAnswers lang asked source) ((.empty : Store lang), now)).1 ∧
      FetchesAll source (use.used (recorded source) (store, now, asked)) (store, now, asked)
        (store', now', asked')) ∧
    ∀ more replies' later now' asked',
      session lang source world (turns ++ more) = (replies', later, now', asked') →
      (∀ name template, store.get? name = some template →
        later.get? name = some template ∧ answersFor name asked' = answersFor name asked ∧
        ∀ frame, (Use.apply name frame).perform (recorded source) (later, now', asked') =
          replyTo (recorded source) (lang.apply template frame) (later, now', asked')) ∧
      ∀ use : Use,
        (∀ name ∈ use.used (recorded source) (store, now, asked),
          (store.get? name).isSome = true) →
        use.perform (recorded source) (later, now', asked') =
          ((use.perform (recorded source) (store, now, asked)).1, later, now', asked') := by
  have hexplained := explained_session lang source world turns
  rw [h] at hexplained
  refine ⟨?_, hexplained, ?_, ?_⟩
  · have hrecorded := play_recorded source turns ((.empty : Store lang), world, [])
    rw [← session, h] at hrecorded
    exact hrecorded
  · intro use reply store' now' asked' huse
    have hreply := perform_firstAnswers source hexplained use
    have hfetches := use.fetchesAll source (store, now, asked)
    rw [huse] at hreply hfetches
    exact ⟨hreply, hfetches⟩
  · intro more replies' later now' asked' hmore
    have hkept name template (hget : store.get? name = some template) :
        Retains name template (answersFor name asked) (later, now', asked') := by
      have hretains : Retains name template (answersFor name asked)
          (session lang source world (turns ++ more)).2 := by
        rw [session_append, h]
        exact play_preserves (fun _ _ _ _ hfetches hheld => hheld.fetches hfetches)
          (fun _ _ hheld => hheld) more ⟨hget, rfl⟩
      rw [hmore] at hretains
      exact hretains
    refine ⟨fun name template hget => ?_, fun use hnames => perform_of_kept fun name hmem => ?_⟩
    · obtain ⟨hlater, hanswers⟩ := hkept name template hget
      exact ⟨hlater, hanswers, fun frame => perform_apply_of_kept hlater frame⟩
    · obtain ⟨template, hget⟩ := Option.isSome_iff_exists.1 (hnames name hmem)
      exact ⟨template, hget, (hkept name template hget).1⟩

/-- A language of texts that are not empty.  Behind a greater sign stands the name of another one,
    which is shown instead. -/
def shortcuts : Language where
  Compiled := List Char
  compile _ text := if text = "" then .error (.template "empty") else .ok text.toList
  apply
    | '>' :: name, _ =>
      .ask (String.ofList name) fun found => .done (found.map fun cs => ⟨String.ofList cs⟩)
    | cs, _ => .done (.ok ⟨String.ofList cs⟩)

/-- A source that has files, or some of them. -/
def fileSource : Source (Dict String) := fun name files => (.ok (files.get? name), files)

def noteTree : Tree :=
  .tag ⟨"note", .none, some "note", none, none, by decide, by decide⟩ .none (.literal "a<b")

/-- The file of the tag is missing at first, then it is empty, and then it leads to another, which
    is missing and comes last. -/
def rewritten : List (Turn (Dict String)) :=
  [.use (.check "note"), .change (·.insert "note" ""), .use (.render noteTree .empty),
    .change (·.insert "note" ">page"), .use (.render noteTree .empty),
    .change (·.insert "page" "here"), .use (.render noteTree .empty)]

/-- When there are no files any more, the tag still renders from the first that could be used. -/
theorem session_resolvesOnce_rewritten :
    let note : Use := .render noteTree .empty
    let held := (session shortcuts fileSource .empty rewritten).2
    let later := (session shortcuts fileSource .empty (rewritten ++ [.change fun _ => .empty])).2
    (∀ name ∈ note.used (recorded fileSource) held, (held.1.get? name).isSome = true) ∧
      held.2.2.map Asking.name = ["note", "note", "note", "page", "page"] ∧
      later.2.1.keys = [] ∧
      note.perform (recorded fileSource) later = (.html (.ok ⟨"here"⟩), later) := by
  intro note held later
  have hkept : ∀ name ∈ note.used (recorded fileSource) held,
      (held.1.get? name).isSome = true := by decide +kernel
  have hreply : (note.perform (recorded fileSource) held).1 = .html (.ok ⟨"here"⟩) := by
    decide +kernel
  have hasked : held.2.2.map Asking.name = ["note", "note", "note", "page", "page"] := by
    decide +kernel
  have hgone : later.2.1.keys = [] := by decide +kernel
  have hfirst : session shortcuts fileSource .empty rewritten = (_, held) := (Prod.eta _).symm
  have hsecond : session shortcuts fileSource .empty (rewritten ++ [.change fun _ => .empty]) =
      (_, later) := (Prod.eta _).symm
  -- from here on it does not matter what was computed
  clear_value held later
  obtain ⟨store, now, asked⟩ := held
  obtain ⟨store', now', asked'⟩ := later
  refine ⟨hkept, hasked, hgone, ?_⟩
  rw [← hreply]
  exact ((session_resolvesOnce hfirst).2.2.2 _ _ _ _ _ hsecond).2 note hkept

end Document
end BracketMark
