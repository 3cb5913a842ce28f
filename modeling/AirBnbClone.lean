import AirBnbClone.AccountCubit
import AirBnbClone.AsyncProgram
import AirBnbClone.AuthRepository
import AirBnbClone.BookPostingCubit
import AirBnbClone.BookedDays
import AirBnbClone.BookingRequest
import AirBnbClone.BookingScreen
import AirBnbClone.CacheCoherence
import AirBnbClone.CalendarSelection
import AirBnbClone.CallBudget
import AirBnbClone.CallEffects
import AirBnbClone.CallHistory
import AirBnbClone.CallbackOrder
import AirBnbClone.ChatAgreement
import AirBnbClone.ChatCubit
import AirBnbClone.ChatSenders
import AirBnbClone.ClosedCubits
import AirBnbClone.CollectionListeners
import AirBnbClone.ConcurrentEarnings
import AirBnbClone.ConversationConsistency
import AirBnbClone.ConversationId
import AirBnbClone.DartDateTime
import AirBnbClone.DartValue
import AirBnbClone.DateTimeParse
import AirBnbClone.Debounce
import AirBnbClone.DeviceCalls
import AirBnbClone.Disposal
import AirBnbClone.DocChanges
import AirBnbClone.DoubleBooking
import AirBnbClone.DoubleRounding
import AirBnbClone.EarningProvenance
import AirBnbClone.EditorSession
import AirBnbClone.EncodingRoundTrip
import AirBnbClone.ExceptTraverse
import AirBnbClone.Execution
import AirBnbClone.ExploreSearch
import AirBnbClone.FetchThenRead
import AirBnbClone.FiniteMap
import AirBnbClone.FireStoreService
import AirBnbClone.FirestoreEncoder
import AirBnbClone.FirestoreMapper
import AirBnbClone.FirestoreQuery
import AirBnbClone.GoRouter
import AirBnbClone.Gregorian
import AirBnbClone.GuestChoices
import AirBnbClone.HostCalendar
import AirBnbClone.HostEarnings
import AirBnbClone.InFlightCalls
import AirBnbClone.InboxPreview
import AirBnbClone.InclusiveDays
import AirBnbClone.IncrementalSync
import AirBnbClone.ItemModels
import AirBnbClone.JsonValue
import AirBnbClone.KeyedEvents
import AirBnbClone.LinkCoherence
import AirBnbClone.LinkedItems
import AirBnbClone.ListenerRows
import AirBnbClone.LiveLists
import AirBnbClone.LoadedBookings
import AirBnbClone.LocalMirror
import AirBnbClone.Models
import AirBnbClone.Navigation
import AirBnbClone.NewestReviews
import AirBnbClone.NumericFields
import AirBnbClone.OwnPosting
import AirBnbClone.PaymentAmount
import AirBnbClone.PaymentIntents
import AirBnbClone.PercentEncoding
import AirBnbClone.PhotoGrid
import AirBnbClone.PostingEditor
import AirBnbClone.PostingLists
import AirBnbClone.PostingResaved
import AirBnbClone.PostingScreen
import AirBnbClone.QueryAgreement
import AirBnbClone.QueryPrinting
import AirBnbClone.RatingBar
import AirBnbClone.ReadPaths
import AirBnbClone.ReadWriteHistory
import AirBnbClone.Realm
import AirBnbClone.RealmQueryBuilder
import AirBnbClone.RealmQueryLanguage
import AirBnbClone.RealmService
import AirBnbClone.RelyGuarantee
import AirBnbClone.RemoteConditions
import AirBnbClone.Repositories
import AirBnbClone.RepositoryQueries
import AirBnbClone.ReviewRating
import AirBnbClone.Router
import AirBnbClone.SaveBookingFaults
import AirBnbClone.SavedPhotos
import AirBnbClone.SavedPosting
import AirBnbClone.SearchField
import AirBnbClone.SearchOrder
import AirBnbClone.SenderPrefetch
import AirBnbClone.SessionOverlap
import AirBnbClone.SharedSubscriptions
import AirBnbClone.SignOut
import AirBnbClone.SignUpRetry
import AirBnbClone.SignUpScreen
import AirBnbClone.SplitText
import AirBnbClone.StayNights
import AirBnbClone.StoreConvergence
import AirBnbClone.StoredForms
import AirBnbClone.StreamExtension
import AirBnbClone.StripePaymentIntent
import AirBnbClone.StripeService
import AirBnbClone.TopValues
import AirBnbClone.TripLists
import AirBnbClone.TripsCubit
import AirBnbClone.ViewPostingCubit
import AirBnbClone.WriteProvenance
