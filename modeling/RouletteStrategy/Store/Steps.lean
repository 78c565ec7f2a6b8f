import RouletteStrategy.Store.Basic

/-! # Runs of steps on a store -/

namespace RouletteStrategy.Store

inductive Step where
  | save (s : Strategy)
  | fetch (slug : String)
  | list
  | remove (slug : String)
  | overwrite (slug text : String) (metadata : Json)

inductive Answer where
  | saved (summary : Json.Object)
  | strategy (s : Option Strategy)
  | summaries (ss : List Json.Object)
  | removed (wasThere : Bool)
  | written

/-- The answer to a step, and the warnings on the way. -/
structure Reply where
  answer : Except Error Answer
  warnings : List String

/-- A step that fails leaves the store as it was. -/
def step (st : Store) : Step → Store × Reply
  | .save s =>
    let saved := st.save s
    match saved.result with
    | .ok (st', summary) => (st', ⟨.ok (.saved summary), saved.warning.toList⟩)
    | .error e => (st, ⟨.error e, saved.warning.toList⟩)
  | .fetch slug => (st, ⟨(st.fetch slug).map .strategy, []⟩)
  | .list => (st, ⟨st.list.map .summaries, []⟩)
  | .remove slug =>
    let (st', wasThere) := st.remove slug
    (st', ⟨.ok (.removed wasThere), []⟩)
  | .overwrite slug text metadata => (st.overwrite slug text metadata, ⟨.ok .written, []⟩)

/-- The store after a run of steps, and the replies in order. -/
def run (st : Store) : List Step → Store × List Reply
  | [] => (st, [])
  | s :: ss =>
    let (st, r) := st.step s
    let (st, rs) := run st ss
    (st, r :: rs)

end RouletteStrategy.Store
