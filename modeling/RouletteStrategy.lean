import RouletteStrategy.Json.Edit
import RouletteStrategy.Proofs.Condition.Adjacency
import RouletteStrategy.Proofs.Condition.Continuation
import RouletteStrategy.Proofs.Condition.HotGroups
import RouletteStrategy.Proofs.Condition.NotFinite
import RouletteStrategy.Proofs.Condition.Patterns
import RouletteStrategy.Proofs.Condition.Siblings
import RouletteStrategy.Proofs.Condition.Stretch
import RouletteStrategy.Proofs.Condition.Window
import RouletteStrategy.Proofs.Evaluation.Existence
import RouletteStrategy.Proofs.Evaluation.Lookups
import RouletteStrategy.Proofs.Evaluation.Monotone
import RouletteStrategy.Proofs.Evaluation.Rearrangement
import RouletteStrategy.Proofs.Evaluation.Replay
import RouletteStrategy.Proofs.Gating.Choice
import RouletteStrategy.Proofs.Gating.Overriding
import RouletteStrategy.Proofs.Graph.Shapes
import RouletteStrategy.Proofs.Json.WholeNumbers
import RouletteStrategy.Proofs.Service.Deployment
import RouletteStrategy.Proofs.Spin.Event
import RouletteStrategy.Proofs.Spin.Rereading
import RouletteStrategy.Proofs.Strategy.Agreement
import RouletteStrategy.Proofs.Strategy.KeyOrder
import RouletteStrategy.Proofs.Strategy.Loading
import RouletteStrategy.Proofs.Strategy.Slug
import RouletteStrategy.Proofs.Strategy.Tampering
import RouletteStrategy.Service.Routes
