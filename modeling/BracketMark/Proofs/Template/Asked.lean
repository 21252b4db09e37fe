import BracketMark.Template.Store

/-!
# What a template source is asked

A store fetches the source of a template when its name is used, unless it keeps the template.
Here is what one such use does, in any store and any world: what the source is asked (`Fetches`),
what its answers leave in the store (`Settles`), and when the templates that two sources give are
the same (`FetchAlike`).  Sources may answer the same question differently at different times.

An application comes to one name after another, of which each may depend on what was found for
those before.  What holds of one fetching carries over by induction on the application
(`fetchesAll_follow`, `exists_follow`).
-/

namespace BracketMark
namespace Template

variable {lang : Language} {σ τ : Type} {source : Source σ} {name : String}

/-! ## Fetching -/

section

variable {store : Store lang} {world world' : σ} {answer : Except LookupError (Option String)}
  {template : lang.Compiled}

/-- Whatever is kept is not asked for. -/
theorem fetch_of_kept (h : store.get? name = some template) :
    store.fetch source name world = (.ok template, store, world) := by
  rw [Store.fetch, h]

theorem fetch_of_ok (hget : store.get? name = none) (hanswer : source name world = (answer, world'))
    (hok : lang.ofAnswer name answer = .ok template) :
    store.fetch source name world = (.ok template, store.insert name template, world') := by
  rw [Store.fetch, hget]
  simp only [hanswer, hok]

theorem fetch_of_error {e : RenderError} (hget : store.get? name = none)
    (hanswer : source name world = (answer, world'))
    (herror : lang.ofAnswer name answer = .error e) :
    store.fetch source name world = (.error e, store, world') := by
  rw [Store.fetch, hget]
  simp only [hanswer, herror]

end

/-! ## The record -/

/-- A name that a source was asked for, and what it answered. -/
structure Asking where
  name : String
  answer : Except LookupError (Option String)

/-- The source with a record of what it is asked. -/
def recorded (source : Source σ) : Source (σ × List Asking) :=
  fun name world =>
    let (answer, next) := source name world.1
    (answer, next, world.2 ++ [⟨name, answer⟩])

/-- The answers to one name, the first one first. -/
def answersFor (name : String) (asked : List Asking) : List (Except LookupError (Option String)) :=
  (asked.filter fun asking => asking.name == name).map Asking.answer

theorem answersFor_concat_self (name : String) (asked : List Asking)
    (answer : Except LookupError (Option String)) :
    answersFor name (asked ++ [⟨name, answer⟩]) = answersFor name asked ++ [answer] := by
  simp [answersFor]

theorem answersFor_concat_of_ne {other : String} (h : other ≠ name) (asked : List Asking)
    (answer : Except LookupError (Option String)) :
    answersFor name (asked ++ [⟨other, answer⟩]) = answersFor name asked := by
  simp [answersFor, h]

/-- `Fetches source name held result next`: what fetching a template comes to.  A template that is
    kept is not asked for.  For any other the source is asked once, and if it compiles then, it is
    kept. -/
inductive Fetches (source : Source σ) (name : String) (held : Store lang × σ × List Asking) :
    Except RenderError lang.Compiled → Store lang × σ × List Asking → Prop
  | kept {template : lang.Compiled} (hget : held.1.get? name = some template) :
      Fetches source name held (.ok template) held
  | settled {answer : Except LookupError (Option String)} {world : σ} {template : lang.Compiled}
      (hget : held.1.get? name = none) (hanswer : source name held.2.1 = (answer, world))
      (hok : lang.ofAnswer name answer = .ok template) :
      Fetches source name held (.ok template)
        (held.1.insert name template, world, held.2.2 ++ [⟨name, answer⟩])
  | failed {answer : Except LookupError (Option String)} {world : σ} {e : RenderError}
      (hget : held.1.get? name = none) (hanswer : source name held.2.1 = (answer, world))
      (herror : lang.ofAnswer name answer = .error e) :
      Fetches source name held (.error e) (held.1, world, held.2.2 ++ [⟨name, answer⟩])

theorem fetches_of_fetch {held next : Store lang × σ × List Asking}
    {result : Except RenderError lang.Compiled}
    (h : held.1.fetch (recorded source) name held.2 = (result, next)) :
    Fetches source name held result next := by
  cases hget : held.1.get? name with
  | some template =>
    rw [fetch_of_kept hget] at h
    cases h
    exact .kept hget
  | none =>
    match hasked : source name held.2.1 with
    | (answer, world) =>
      have hrecorded : recorded source name held.2 =
          (answer, world, held.2.2 ++ [⟨name, answer⟩]) := by
        simp only [recorded, hasked]
      cases hanswer : lang.ofAnswer name answer with
      | ok template =>
        rw [fetch_of_ok hget hrecorded hanswer] at h
        cases h
        exact .settled hget hasked hanswer
      | error e =>
        rw [fetch_of_error hget hrecorded hanswer] at h
        cases h
        exact .failed hget hasked hanswer

/-! ## Applications -/

/-- The names that an application comes to, each as often as it does. -/
def namesAsked (source : Source σ) :
    Application lang.Compiled → Store lang × σ → List String
  | .done _, _ => []
  | .ask name next, held =>
    let (found, held) := held.1.fetch source name held.2
    name :: namesAsked source (next found) held

theorem namesAsked_ask {next : Except RenderError lang.Compiled → Application lang.Compiled}
    {held between : Store lang × σ} {found : Except RenderError lang.Compiled}
    (h : held.1.fetch source name held.2 = (found, between)) :
    namesAsked source (.ask name next) held = name :: namesAsked source (next found) between := by
  rw [namesAsked, h]

/-- Templates are fetched by these names, one after another. -/
inductive FetchesAll (source : Source σ) :
    List String → Store lang × σ × List Asking → Store lang × σ × List Asking → Prop
  | nil {held : Store lang × σ × List Asking} : FetchesAll source [] held held
  | cons {name : String} {names : List String} {held between next : Store lang × σ × List Asking}
      {result : Except RenderError lang.Compiled} (h : Fetches source name held result between)
      (hrest : FetchesAll source names between next) : FetchesAll source (name :: names) held next

theorem FetchesAll.append {names more : List String}
    {held between next : Store lang × σ × List Asking} (h : FetchesAll source names held between)
    (hmore : FetchesAll source more between next) :
    FetchesAll source (names ++ more) held next := by
  induction h with
  | nil => exact hmore
  | cons hfirst _ ih => exact .cons hfirst (ih hmore)

/-- What each fetching preserves all preserve. -/
theorem FetchesAll.preserves {I : Store lang × σ × List Asking → Prop}
    (hfetch : ∀ name held result next, Fetches source name held result next → I held → I next)
    {names : List String} {held next : Store lang × σ × List Asking}
    (h : FetchesAll source names held next) (hheld : I held) : I next := by
  induction h with
  | nil => exact hheld
  | cons hfirst _ ih => exact ih (hfetch _ _ _ _ hfirst hheld)

/-- **An application fetches the names that it comes to.** -/
theorem fetchesAll_follow (source : Source σ) (app : Application lang.Compiled)
    (held : Store lang × σ × List Asking) :
    FetchesAll source (namesAsked (recorded source) app held) held
      (Store.follow (recorded source) app held.1 held.2).2 := by
  induction app generalizing held with
  | done result => exact .nil
  | ask name next ih =>
    match hfetch : held.1.fetch (recorded source) name held.2 with
    | (found, between) =>
      rw [namesAsked_ask hfetch, Store.follow_ask hfetch]
      exact .cons (fetches_of_fetch hfetch) (ih found between)

/-! ## What is kept -/

/-- What is kept under a name after these answers: nothing as long as all of them failed, and else
    the template of the last one, which was the first that did not fail. -/
inductive Settles (name : String) :
    List (Except LookupError (Option String)) → Option lang.Compiled → Prop
  | unsettled {answers : List (Except LookupError (Option String))}
      (h : ∀ answer ∈ answers, (lang.ofAnswer name answer).isOk = false) :
      Settles name answers none
  | settled {answers : List (Except LookupError (Option String))}
      {answer : Except LookupError (Option String)} {template : lang.Compiled}
      (h : ∀ answer ∈ answers, (lang.ofAnswer name answer).isOk = false)
      (hlast : lang.ofAnswer name answer = .ok template) :
      Settles name (answers ++ [answer]) (some template)

theorem Settles.failed_of_none {answers : List (Except LookupError (Option String))}
    (h : Settles name answers (none : Option lang.Compiled)) :
    ∀ answer ∈ answers, (lang.ofAnswer name answer).isOk = false := by
  cases h with
  | unsettled h => exact h

/-- What is kept is what the record says. -/
def Explained (held : Store lang × σ × List Asking) : Prop :=
  ∀ name, Settles name (answersFor name held.2.2) (held.1.get? name)

theorem explained_empty (world : σ) : Explained ((.empty : Store lang), world, []) := by
  intro name
  rw [Dict.get?_empty]
  exact .unsettled fun answer h => nomatch h

theorem Explained.fetches {held next : Store lang × σ × List Asking}
    {result : Except RenderError lang.Compiled} (h : Explained held)
    (hfetches : Fetches source name held result next) : Explained next := by
  intro other
  cases hfetches with
  | kept hget => exact h other
  | settled hget hanswer hok =>
    by_cases hname : other = name
    · subst hname
      have hfailed := (hget ▸ h other).failed_of_none
      rw [answersFor_concat_self, Dict.get?_insert, if_pos rfl]
      exact .settled hfailed hok
    · rw [answersFor_concat_of_ne (Ne.symm hname), Dict.get?_insert, if_neg hname]
      exact h other
  | @failed answer world e hget hanswer herror =>
    by_cases hname : other = name
    · subst hname
      have hfailed := (hget ▸ h other).failed_of_none
      rw [answersFor_concat_self, hget]
      refine .unsettled fun answer' hmem => ?_
      rcases List.mem_append.1 hmem with hmem | hmem
      · exact hfailed answer' hmem
      · rw [List.mem_singleton.1 hmem, herror]
        rfl
    · rw [answersFor_concat_of_ne (Ne.symm hname)]
      exact h other

/-- A template is kept under a name, after these answers to it. -/
def Retains (name : String) (template : lang.Compiled)
    (answers : List (Except LookupError (Option String)))
    (held : Store lang × σ × List Asking) : Prop :=
  held.1.get? name = some template ∧ answersFor name held.2.2 = answers

/-- What is kept stays, and is not asked for again. -/
theorem Retains.fetches {held next : Store lang × σ × List Asking} {other : String}
    {template : lang.Compiled} {answers : List (Except LookupError (Option String))}
    {result : Except RenderError lang.Compiled} (h : Retains other template answers held)
    (hfetches : Fetches source name held result next) :
    Retains other template answers next := by
  obtain ⟨hget, hanswers⟩ := h
  have hne (hnone : held.1.get? name = none) : name ≠ other := by
    rintro rfl
    rw [hget] at hnone
    cases hnone
  cases hfetches with
  | kept _ => exact ⟨hget, hanswers⟩
  | settled hnone hanswer hok =>
    rw [Retains, answersFor_concat_of_ne (hne hnone), Dict.get?_insert, if_neg (hne hnone).symm]
    exact ⟨hget, hanswers⟩
  | failed hnone hanswer herror =>
    rw [Retains, answersFor_concat_of_ne (hne hnone)]
    exact ⟨hget, hanswers⟩

/-! ## Sources that give the same -/

/-- Two sources give the same template for a name whenever what is held is related, and leave what
    is related again. -/
def FetchAlike (R : Store lang × σ → Store lang × τ → Prop) (source : Source σ)
    (source' : Source τ) (name : String) : Prop :=
  ∀ held held', R held held' →
    (held.1.fetch source name held.2).1 = (held'.1.fetch source' name held'.2).1 ∧
      R (held.1.fetch source name held.2).2 (held'.1.fetch source' name held'.2).2

theorem FetchAlike.exists_fetch {R : Store lang × σ → Store lang × τ → Prop} {source' : Source τ}
    (h : FetchAlike R source source' name) {held : Store lang × σ} {held' : Store lang × τ}
    (hheld : R held held') : ∃ result next next', R next next' ∧
      held.1.fetch source name held.2 = (result, next) ∧
      held'.1.fetch source' name held'.2 = (result, next') := by
  obtain ⟨hresult, hnext⟩ := h held held' hheld
  exact ⟨_, _, _, hnext, rfl, Prod.ext hresult.symm rfl⟩

/-- **An application gives the same** and leaves what is alike, if the templates that it comes to
    are the same. -/
theorem exists_follow {R : Store lang × σ → Store lang × τ → Prop} {source' : Source τ}
    {app : Application lang.Compiled} {held : Store lang × σ} {held' : Store lang × τ}
    (hnames : ∀ name ∈ namesAsked source app held, FetchAlike R source source' name)
    (h : R held held') : ∃ result next next', R next next' ∧
      Store.follow source app held.1 held.2 = (result, next) ∧
      Store.follow source' app held'.1 held'.2 = (result, next') := by
  induction app generalizing held held' with
  | done result => exact ⟨result, held, held', h, rfl, rfl⟩
  | ask name next ih =>
    rw [namesAsked] at hnames
    obtain ⟨found, between, between', hbetween, hfetch, hfetch'⟩ :=
      (hnames name List.mem_cons_self).exists_fetch h
    rw [hfetch] at hnames
    rw [Store.follow_ask hfetch, Store.follow_ask hfetch']
    exact ih found (fun other hmem => hnames other (List.mem_cons_of_mem name hmem)) hbetween

/-- What is kept in two stores is the same whatever the sources are by now. -/
theorem fetchAlike_of_kept {source' : Source τ} {held : Store lang × σ} {held' : Store lang × τ}
    {template : lang.Compiled} (hget : held.1.get? name = some template)
    (hget' : held'.1.get? name = some template) :
    FetchAlike (fun first second => first = held ∧ second = held') source source' name := by
  rintro first second ⟨rfl, rfl⟩
  rw [fetch_of_kept hget, fetch_of_kept hget']
  exact ⟨rfl, rfl, rfl⟩

/-- A record changes nothing. -/
theorem fetchAlike_recorded (source : Source σ) (name : String) :
    FetchAlike (fun (held : Store lang × σ × List Asking) held' => held' = (held.1, held.2.1))
      (recorded source) source name := by
  rintro held held' rfl
  match hfetch : held.1.fetch (recorded source) name held.2 with
  | (result, next) =>
    cases fetches_of_fetch hfetch with
    | kept hget =>
      rw [fetch_of_kept hget]
      exact ⟨rfl, rfl⟩
    | settled hget hanswer hok =>
      rw [fetch_of_ok hget hanswer hok]
      exact ⟨rfl, rfl⟩
    | failed hget hanswer herror =>
      rw [fetch_of_error hget hanswer herror]
      exact ⟨rfl, rfl⟩

/-- The source that answers with the first of the answers in the record that compiles, if the name
    has one, and asks for any other name. -/
def firstAnswers (lang : Language) (asked : List Asking) (source : Source σ) : Source σ :=
  fun name world =>
    match (answersFor name asked).find? fun answer => (lang.ofAnswer name answer).isOk with
    | some answer => (answer, world)
    | none => source name world

/-- How a store and one that keeps less agree on a name, if the second asks another source. -/
inductive Agrees (source source' : Source σ) (name : String) :
    Option lang.Compiled → Option lang.Compiled → Prop
  | unknown (h : source' name = source name) : Agrees source source' name none none
  | kept {template : lang.Compiled} : Agrees source source' name (some template) (some template)
  | given {template : lang.Compiled} {answer : Except LookupError (Option String)}
      (hanswer : ∀ world, source' name world = (answer, world))
      (hok : lang.ofAnswer name answer = .ok template) :
      Agrees source source' name (some template) none

theorem Agrees.eq_none {source source' : Source σ} {kept : Option lang.Compiled}
    (h : Agrees source source' name none kept) : kept = none ∧ source' name = source name := by
  cases h with
  | unknown h => exact ⟨rfl, h⟩

/-- A source of first answers, asked in a store that keeps nothing, agrees with the store. -/
theorem agrees_firstAnswers {answers : List (Except LookupError (Option String))}
    {asked : List Asking} {kept : Option lang.Compiled} (hanswers : answersFor name asked = answers)
    (h : Settles name answers kept) :
    Agrees source (firstAnswers lang asked source) name kept none := by
  cases h with
  | unsettled hfailed =>
    have hnone :
        (answersFor name asked).find? (fun answer => (lang.ofAnswer name answer).isOk) = none :=
      List.find?_eq_none.2 fun answer hmem hok => by
        rw [hfailed answer (hanswers ▸ hmem)] at hok
        cases hok
    refine .unknown (funext fun world => ?_)
    rw [firstAnswers, hnone]
  | @settled before answer template hfailed hlast =>
    have hnone : before.find? (fun answer => (lang.ofAnswer name answer).isOk) = none :=
      List.find?_eq_none.2 fun answer hmem hok => by
        rw [hfailed answer hmem] at hok
        cases hok
    have hsome : (answersFor name asked).find? (fun answer => (lang.ofAnswer name answer).isOk) =
        some answer := by
      rw [hanswers, List.find?_append, hnone, Option.none_or, List.find?_cons_of_pos]
      rw [hlast]
      rfl
    refine .given (fun world => ?_) hlast
    rw [firstAnswers, hsome]

/-- What is held agrees on every name, in the same world. -/
def AgreesOnAll (source source' : Source σ) (held : Store lang × σ × List Asking)
    (held' : Store lang × σ) : Prop :=
  held'.2 = held.2.1 ∧
    ∀ name, Agrees source source' name (held.1.get? name) (held'.1.get? name)

/-- Stores that agree give the same templates and agree afterwards. -/
theorem fetchAlike_of_agrees (source source' : Source σ) (name : String) :
    FetchAlike (@AgreesOnAll lang σ source source') (recorded source) source' name := by
  rintro held ⟨store', world'⟩ ⟨hworld, hagrees⟩
  dsimp only at hworld hagrees
  subst hworld
  match hfetch : held.1.fetch (recorded source) name held.2 with
  | (result, next) =>
    cases fetches_of_fetch hfetch with
    | kept hget =>
      have hname := hget ▸ hagrees name
      generalize hget' : store'.get? name = kept' at hname
      cases hname with
      | kept =>
        rw [fetch_of_kept hget']
        exact ⟨rfl, rfl, hagrees⟩
      | given hanswer hok =>
        rw [fetch_of_ok hget' (hanswer _) hok]
        refine ⟨rfl, rfl, fun other => ?_⟩
        dsimp only
        rw [Dict.get?_insert]
        split
        case isTrue heq =>
          rw [heq, hget]
          exact .kept
        case isFalse => exact hagrees other
    | settled hget hanswer hok =>
      obtain ⟨hget', hsource⟩ := (hget ▸ hagrees name).eq_none
      have hanswer' : source' name held.2.1 = _ := hsource ▸ hanswer
      rw [fetch_of_ok hget' hanswer' hok]
      refine ⟨rfl, rfl, fun other => ?_⟩
      dsimp only
      rw [Dict.get?_insert, Dict.get?_insert]
      split
      case isTrue => exact .kept
      case isFalse => exact hagrees other
    | failed hget hanswer herror =>
      obtain ⟨hget', hsource⟩ := (hget ▸ hagrees name).eq_none
      have hanswer' : source' name held.2.1 = _ := hsource ▸ hanswer
      rw [fetch_of_error hget' hanswer' herror]
      exact ⟨rfl, rfl, hagrees⟩

end Template
end BracketMark
