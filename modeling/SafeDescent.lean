import SafeDescent.Memo
import SafeDescent.Parser.Text
import SafeDescent.Proofs.Parser.Accumulation
import SafeDescent.Proofs.Parser.Alternatives
import SafeDescent.Proofs.Parser.ChoiceLaws
import SafeDescent.Proofs.Parser.Diagnostics
import SafeDescent.Proofs.Parser.FatalErrors
import SafeDescent.Proofs.Parser.Faults
import SafeDescent.Proofs.Parser.LeftChains
import SafeDescent.Proofs.Parser.Liveness
import SafeDescent.Proofs.Parser.Lookahead
import SafeDescent.Proofs.Parser.Memoization
import SafeDescent.Proofs.Parser.MessageIndependence
import SafeDescent.Proofs.Parser.MonadLaws
import SafeDescent.Proofs.Parser.NestedBrackets
import SafeDescent.Proofs.Parser.ReaderIndependence
import SafeDescent.Proofs.Parser.Recursion
import SafeDescent.Proofs.Parser.RepeatedRuns
import SafeDescent.Proofs.Parser.SelfRepetition
import SafeDescent.Proofs.Parser.SourceText
import SafeDescent.Proofs.Parser.Spans
import SafeDescent.Proofs.Parser.Splitting
import SafeDescent.Proofs.Parser.Termination
import SafeDescent.Proofs.Parser.WholeInput
import SafeDescent.Proofs.Reader.Excerpt
import SafeDescent.Proofs.Session.Handles
import SafeDescent.Proofs.Session.OrderedSessions
import SafeDescent.Proofs.Trampoline.Course
import SafeDescent.Proofs.Trampoline.Meaning
import SafeDescent.Reader.Range
import SafeDescent.Reader.Slice
import SafeDescent.Reader.Text
import SafeDescent.Session
import SafeDescent.Trampoline.Arithmetic
