import CodeRetrieval.Main
import CodeRetrieval.Proofs.DirectRetrieval
import CodeRetrieval.Proofs.LineCoverage
import CodeRetrieval.Proofs.NodeIntegrity
import CodeRetrieval.Proofs.QueryPieces
import CodeRetrieval.Proofs.Embedding
import CodeRetrieval.Proofs.EmbeddingFailure
import CodeRetrieval.Proofs.BaseTokens
import CodeRetrieval.Proofs.Keys
import CodeRetrieval.Proofs.Walk
import CodeRetrieval.Proofs.RetryProtocol
import CodeRetrieval.Proofs.KeywordPriority
import CodeRetrieval.Proofs.SettingsFaults
import CodeRetrieval.Proofs.MergedSpans
import CodeRetrieval.Proofs.SpanBudget
import CodeRetrieval.Proofs.ThresholdOrder
import CodeRetrieval.Proofs.FirstLines
import CodeRetrieval.Proofs.Selection
import CodeRetrieval.Proofs.DocumentOrder
import CodeRetrieval.Proofs.CheckedNumbers
import CodeRetrieval.Proofs.UnitScale
import CodeRetrieval.Proofs.Identifier
import CodeRetrieval.Proofs.LineWindows
import CodeRetrieval.Proofs.Phrases
import CodeRetrieval.Proofs.PieceBounds
import CodeRetrieval.Proofs.NamingStyles
import CodeRetrieval.Proofs.CosineBounds
import CodeRetrieval.Proofs.ResponseOrder
import CodeRetrieval.Proofs.Rendering
import CodeRetrieval.Proofs.SmallNodes
import CodeRetrieval.Proofs.LineBytes
