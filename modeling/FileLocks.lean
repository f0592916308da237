import FileLocks.LockTable.Lemmas
import FileLocks.Proofs.HandleCheck
import FileLocks.Proofs.IntegerCodes
import FileLocks.Proofs.Ranges.Extents
import FileLocks.Proofs.Scripted.Answers
import FileLocks.Proofs.Scripted.Completion
import FileLocks.Proofs.Scripted.Encoding
import FileLocks.Proofs.Scripted.GuardLives
import FileLocks.Proofs.Session.Accounts
import FileLocks.Proofs.Session.Children
import FileLocks.Proofs.Session.ProcessScope
import FileLocks.Proofs.Session.Release
import FileLocks.Proofs.Session.SameBytes
import FileLocks.Proofs.Session.Transience
import FileLocks.Proofs.Texts.FailureTexts
