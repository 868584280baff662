import FormDialogue.Unicode.Name.Run

/-! # Names of pictures

The names of tiles, cards, pictures, tags and selectors, in runs of their short form. -/

namespace FormDialogue.Unicode

def pictureNames : List NameRun := [
  ⟨0x1F000, [
    "aMAHJONG TILE EAST WINDcSOUTHncWESTncNORTHncRED DRAGONcGREENncWHITEncONE OF CHARACTERScTWOo",
    "cTHREEocFOURocFIVEocSIXocSEVENocEIGHTocNINEocONE OF BAMBOOScTWOocTHREEocFOURocFIVEocSIXo",
    "cSEVENocEIGHTocNINEocONE OF CIRCLEScTWOocTHREEocFOURocFIVEocSIXocSEVENocEIGHTocNINEocPLUM",
    "cORCHIDcBAMBOOcCHRYSANTHEMUMcSPRINGcSUMMERcAUTUMNcWINTERcJOKERcBACK"]⟩,
  ⟨0x1F030, [
    "aDOMINO TILE HORIZONTAL BACKcHORIZONTAL-00-00++++++cHORIZONTAL-01-00++++++cHORIZONTAL-02-00+",
    "+++++cHORIZONTAL-03-00++++++cHORIZONTAL-04-00++++++cHORIZONTAL-05-00++++++cHORIZONTAL-06-00+",
    "+++++cVERTICAL BACKcVERTICAL-00-00++++++cVERTICAL-01-00++++++cVERTICAL-02-00++++++",
    "cVERTICAL-03-00++++++cVERTICAL-04-00++++++cVERTICAL-05-00++++++cVERTICAL-06-00++++++"]⟩,
  ⟨0x1F0A0, [
    "aPLAYING CARD BACKcACE OF SPADEScTWOocTHREEocFOURocFIVEocSIXocSEVENocEIGHTocNINEocTENocJACKo",
    "cKNIGHTocQUEENocKINGo__cACE OF HEARTScTWOocTHREEocFOURocFIVEocSIXocSEVENocEIGHTocNINEocTENo",
    "cJACKocKNIGHTocQUEENocKINGocRED JOKER_cACE OF DIAMONDScTWOocTHREEocFOURocFIVEocSIXocSEVENo",
    "cEIGHTocNINEocTENocJACKocKNIGHTocQUEENocKINGocBLACK JOKER_cACE OF CLUBScTWOocTHREEocFOURo",
    "cFIVEocSIXocSEVENocEIGHTocNINEocTENocJACKocKNIGHTocQUEENocKINGocWHITE JOKERcFOOLcTRUMP-1++++",
    "++++++++++++++++"]⟩,
  ⟨0x1F100, [
    "aDIGIT ZERO FULL STOPcCOMMAbONEnbTWOnbTHREEnbFOURnbFIVEnbSIXnbSEVENnbEIGHTnbNINEn",
    "aDINGBAT CIRCLED SANS-SERIF DIGIT ZERObNEGATIVEqaCIRCLED ZERO WITH SLASHbANTICLOCKWISE ARROW",
    "bDOLLAR SIGN WITH OVERLAID BACKSLASHaPARENTHESIZED LATIN CAPITAL LETTER AeBeCeDeEeFeGeHeIeJ",
    "eKeLeMeNeOePeQeReSeTeUeVeWeXeYeZaTORTOISE SHELL BRACKETED LATIN CAPITAL LETTER S",
    "aCIRCLED ITALIC LATIN CAPITAL LETTER CfRbCDbWZaCOPYLEFT SYMBOL",
    "aSQUARED LATIN CAPITAL LETTER AeBeCeDeEeFeGeHeIeJeKeLeMeNeOePeQeReSeTeUeVeWeXeYeZbHVbMVbSD",
    "bSSbPPVbWCaNEGATIVE CIRCLED LATIN CAPITAL LETTER AfBfCfDfEfFfGfHfIfJfKfLfMfNfOfPfQfRfSfTfUfV",
    "fWfXfYfZaRAISED MC SIGNbMDnbMRnaCIRCLED CCbC WITH OVERLAID BACKSLASHbHUMAN FIGURE",
    "aNEGATIVE SQUARED LATIN CAPITAL LETTER AfBfCfDfEfFfGfHfIfJfKfLfMfNfOfPfQfRfSfTfUfVfWfXfYfZ",
    "aCROSSED NEGATIVE SQUARED LATIN CAPITAL LETTER PaNEGATIVE SQUARED ICcPAcSAcABcWCaSQUARE DJ",
    "aSQUARED CLbCOOLbFREEbIDbNEWbNGbOKbSOSbUP WITH EXCLAMATION MARKbVSbTHREE DbSECOND SCREEN",
    "bTWO KbFOURnbEIGHTnbFIVE POINT ONEbSEVENobTWENTY-TWO POINT TWObSIXTY PbONE HUNDRED TWENTYn",
    "bLATIN SMALL LETTER DbHCbHDRbHI-RESbLOSSLESSbSHVbUHDbVODaMASK WORK SYMBOL"]⟩,
  ⟨0x1F1E6, [
    "aREGIONAL INDICATOR SYMBOL LETTER AeBeCeDeEeFeGeHeIeJeKeLeMeNeOePeQeReSeTeUeVeWeXeYeZ",
    "aSQUARE HIRAGANA HOKAaSQUARED KATAKANA KOKOcSA"]⟩,
  ⟨0x1F210, [
    "aSQUARED CJK UNIFIED IDEOGRAPH-624BdIDEOGRAPH-5B57dIDEOGRAPH-53CCbKATAKANA DE",
    "bCJK UNIFIED IDEOGRAPH-4E8CdIDEOGRAPH-591AdIDEOGRAPH-89E3dIDEOGRAPH-5929dIDEOGRAPH-4EA4",
    "dIDEOGRAPH-6620dIDEOGRAPH-7121dIDEOGRAPH-6599dIDEOGRAPH-524DdIDEOGRAPH-5F8CdIDEOGRAPH-518D",
    "dIDEOGRAPH-65B0dIDEOGRAPH-521DdIDEOGRAPH-7D42dIDEOGRAPH-751FdIDEOGRAPH-8CA9dIDEOGRAPH-58F0",
    "dIDEOGRAPH-5439dIDEOGRAPH-6F14dIDEOGRAPH-6295dIDEOGRAPH-6355dIDEOGRAPH-4E00dIDEOGRAPH-4E09",
    "dIDEOGRAPH-904AdIDEOGRAPH-5DE6dIDEOGRAPH-4E2DdIDEOGRAPH-53F3dIDEOGRAPH-6307dIDEOGRAPH-8D70",
    "dIDEOGRAPH-6253dIDEOGRAPH-7981dIDEOGRAPH-7A7AdIDEOGRAPH-5408dIDEOGRAPH-6E80dIDEOGRAPH-6709",
    "dIDEOGRAPH-6708dIDEOGRAPH-7533dIDEOGRAPH-5272dIDEOGRAPH-55B6dIDEOGRAPH-914D"]⟩,
  ⟨0x1F240, [
    "aTORTOISE SHELL BRACKETED CJK UNIFIED IDEOGRAPH-672CfIDEOGRAPH-4E09fIDEOGRAPH-4E8C",
    "fIDEOGRAPH-5B89fIDEOGRAPH-70B9fIDEOGRAPH-6253fIDEOGRAPH-76D7fIDEOGRAPH-52DDfIDEOGRAPH-6557"]⟩,
  ⟨0x1F250, [
    "aCIRCLED IDEOGRAPH ADVANTAGEcACCEPT"]⟩,
  ⟨0x1F260, [
    "aROUNDED SYMBOL FOR FUdLUdSHOUdXIdSHUANGXIdCAI"]⟩,
  ⟨0x1F300, [
    "aCYCLONEaFOGGYaCLOSED UMBRELLAaNIGHT WITH STARSaSUNRISE OVER MOUNTAINSbaCITYSCAPE AT DUSK",
    "aSUNSET OVER BUILDINGSaRAINBOWaBRIDGE AT NIGHTaWATER WAVEaVOLCANOaMILKY WAY",
    "aEARTH GLOBE EUROPE-AFRICAcAMERICAScASIA-AUSTRALIAaGLOBE WITH MERIDIANSaNEW MOON SYMBOL",
    "aWAXING CRESCENToaFIRST QUARTERoaWAXING GIBBOUSoaFULLoaWANING GIBBOUSoaLAST QUARTERo",
    "aWANING CRESCENToaCRESCENT MOONaNEW MOON WITH FACEaFIRST QUARTERpaLASTqaFULLpaSUNo",
    "aGLOWING STARaSHOOTINGnaTHERMOMETERaBLACK DROPLETaWHITE SUNcWITH SMALL CLOUDcBEHINDn",
    "eWITH RAINapcSNOWcLIGHTNINGcTORNADOaFOGaWIND BLOWING FACEaHOT DOGaTACOaBURRITOaCHESTNUT",
    "aSEEDLINGaEVERGREEN TREEaDECIDUOUSnaPALMnaCACTUSaHOT PEPPERaTULIPaCHERRY BLOSSOMaROSE",
    "aHIBISCUSaSUNFLOWERaBLOSSOMaEAR OF MAIZEcRICEaHERBaFOUR LEAF CLOVERaMAPLE LEAFaFALLENn",
    "aLEAF FLUTTERING IN WINDaMUSHROOMaTOMATOaAUBERGINEaGRAPESaMELONaWATERMELONaTANGERINEaLEMON",
    "aBANANAaPINEAPPLEaRED APPLEaGREENnaPEARaPEACHaCHERRIESaSTRAWBERRYaHAMBURGERaSLICE OF PIZZA",
    "aMEAT ON BONEaPOULTRY LEGaRICE CRACKERbBALLaCOOKED RICEaCURRY ANDnaSTEAMING BOWLaSPAGHETTI",
    "aBREADaFRENCH FRIESaROASTED SWEET POTATOaDANGOaODENaSUSHIaFRIED SHRIMP",
    "aFISH CAKE WITH SWIRL DESIGNaSOFT ICE CREAMaSHAVED ICEaICE CREAMaDOUGHNUTaCOOKIE",
    "aCHOCOLATE BARaCANDYaLOLLIPOPaCUSTARDaHONEY POTaSHORTCAKEaBENTO BOXaPOT OF FOODaCOOKING",
    "aFORK AND KNIFEaTEACUP WITHOUT HANDLEaSAKE BOTTLE AND CUPaWINE GLASSaCOCKTAILn",
    "aTROPICAL DRINKaBEER MUGaCLINKING BEER MUGSaBABY BOTTLEaFORK AND KNIFE WITH PLATE",
    "aBOTTLE WITH POPPING CORKaPOPCORNaRIBBONaWRAPPED PRESENTaBIRTHDAY CAKEaJACK-O-LANTERN",
    "aCHRISTMAS TREEaFATHER CHRISTMASaFIREWORKSaFIREWORK SPARKLERaBALLOONaPARTY POPPER",
    "aCONFETTI BALLaTANABATA TREEaCROSSED FLAGSaPINE DECORATIONaJAPANESE DOLLSaCARP STREAMER",
    "aWIND CHIMEaMOON VIEWING CEREMONYaSCHOOL SATCHELaGRADUATION CAPaHEART WITH TIP ON THE LEFT",
    "aBOUQUET OF FLOWERSaMILITARY MEDALaREMINDER RIBBONaMUSICAL KEYBOARD WITH JACKS",
    "aSTUDIO MICROPHONEaLEVEL SLIDERaCONTROL KNOBSaBEAMED ASCENDING MUSICAL NOTESbDESCENDINGo",
    "aFILM FRAMESaADMISSION TICKETSaCAROUSEL HORSEaFERRIS WHEELaROLLER COASTER",
    "aFISHING POLE AND FISHaMICROPHONEaMOVIE CAMERAaCINEMAaHEADPHONEaARTIST PALETTEaTOP HAT",
    "aCIRCUS TENTaTICKETaCLAPPER BOARDaPERFORMING ARTSaVIDEO GAMEaDIRECT HITaSLOT MACHINE",
    "aBILLIARDSaGAME DIEaBOWLINGaFLOWER PLAYING CARDSaMUSICAL NOTEaMULTIPLE MUSICAL NOTES",
    "aSAXOPHONEaGUITARaMUSICAL KEYBOARDaTRUMPETaVIOLINaMUSICAL SCOREaRUNNING SHIRT WITH SASH",
    "aTENNIS RACQUET AND BALLaSKI AND SKI BOOTaBASKETBALL AND HOOPaCHEQUERED FLAGaSNOWBOARDER",
    "aRUNNERaSURFERaSPORTS MEDALaTROPHYaHORSE RACINGaAMERICAN FOOTBALLaRUGBYnaSWIMMER",
    "aWEIGHT LIFTERaGOLFERaRACING MOTORCYCLEbCARaCRICKET BAT AND BALLaVOLLEYBALL",
    "aFIELD HOCKEY STICK AND BALLaICE HOCKEY STICK AND PUCKaTABLE TENNIS PADDLE AND BALL",
    "aSNOW CAPPED MOUNTAINaCAMPINGaBEACH WITH UMBRELLAaBUILDING CONSTRUCTIONaHOUSE BUILDINGS",
    "aCITYSCAPEaDERELICT HOUSE BUILDINGaCLASSICALnaDESERTbISLANDaNATIONAL PARKaSTADIUM",
    "aHOUSE BUILDINGbWITH GARDENaOFFICE BUILDINGaJAPANESE POST OFFICEaEUROPEANoaHOSPITALaBANK",
    "aAUTOMATED TELLER MACHINEaHOTELaLOVEnaCONVENIENCE STOREaSCHOOLaDEPARTMENT STOREaFACTORY",
    "aIZAKAYA LANTERNaJAPANESE CASTLEaEUROPEANnaWHITE PENNANTaBLACKnaWAVING WHITE FLAGbBLACKn",
    "aROSETTEaBLACKnaLABELaBADMINTON RACQUET AND SHUTTLECOCKaBOW AND ARROWaAMPHORA",
    "aEMOJI MODIFIER FITZPATRICK TYPE-1-2dTYPE-3+++aRATaMOUSEaOXaWATER BUFFALOaCOWaTIGERaLEOPARD",
    "aRABBITaCATaDRAGONaCROCODILEaWHALEaSNAILaSNAKEaHORSEaRAMaGOATaSHEEPaMONKEYaROOSTERaCHICKEN",
    "aDOGaPIGaBOARaELEPHANTaOCTOPUSaSPIRAL SHELLaBUGaANTaHONEYBEEaLADY BEETLEaFISHaTROPICALn",
    "aBLOWFISHaTURTLEaHATCHING CHICKaBABYnaFRONT-FACINGoaBIRDaPENGUINaKOALAaPOODLE",
    "aDROMEDARY CAMELaBACTRIANnaDOLPHINaMOUSE FACEaCOWnaTIGERnaRABBITnaCATnaDRAGONn",
    "aSPOUTING WHALEaHORSE FACEaMONKEYnaDOGnaPIGnaFROGnaHAMSTERnaWOLFnaBEARnaPANDAnaPIG NOSE",
    "aPAW PRINTSaCHIPMUNKaEYESaEYEaEARaNOSEaMOUTHaTONGUEaWHITE UP POINTING BACKHAND INDEXbDOWNp",
    "bLEFTpbRIGHTpaFISTED HAND SIGNaWAVINGoaOKoaTHUMBS UPnbDOWNnaCLAPPING HANDSnaOPENoaCROWN",
    "aWOMANS HATaEYEGLASSESaNECKTIEaT-SHIRTaJEANSaDRESSaKIMONOaBIKINIaWOMANS CLOTHESaPURSE",
    "aHANDBAGaPOUCHaMANS SHOEaATHLETICnaHIGH-HEELEDnaWOMANS SANDALbBOOTSaFOOTPRINTS",
    "aBUST IN SILHOUETTEaBUSTSoaBOYaGIRLaMANaWOMANaFAMILYaMAN AND WOMAN HOLDING HANDSaTWO MENo",
    "bWOMENoaPOLICE OFFICERaWOMAN WITH BUNNY EARSaBRIDE WITH VEILaPERSON WITH BLOND HAIR",
    "aMAN WITH GUA PI MAOcTURBANaOLDER MANbWOMANaBABYaCONSTRUCTION WORKERaPRINCESSaJAPANESE OGRE",
    "bGOBLINaGHOSTaBABY ANGELaEXTRATERRESTRIAL ALIENaALIEN MONSTERaIMPaSKULL",
    "aINFORMATION DESK PERSONaGUARDSMANaDANCERaLIPSTICKaNAIL POLISHaFACE MASSAGEaHAIRCUT",
    "aBARBER POLEaSYRINGEaPILLaKISS MARKaLOVE LETTERaRINGaGEM STONEaKISSaBOUQUET",
    "aCOUPLE WITH HEARTaWEDDINGaBEATING HEARTaBROKENnaTWO HEARTSaSPARKLING HEARTaGROWINGn",
    "aHEART WITH ARROWaBLUE HEARTaGREENnaYELLOWnaPURPLEnaHEART WITH RIBBONaREVOLVING HEARTS",
    "aHEART DECORATIONaDIAMOND SHAPE WITH A DOT INSIDEaELECTRIC LIGHT BULBaANGER SYMBOLaBOMB",
    "aSLEEPING SYMBOLaCOLLISIONnaSPLASHING SWEATnaDROPLETaDASH SYMBOLaPILE OF POOaFLEXED BICEPS",
    "aDIZZY SYMBOLaSPEECH BALLOONaTHOUGHTnaWHITE FLOWERaHUNDRED POINTS SYMBOLaMONEY BAG",
    "aCURRENCY EXCHANGEaHEAVY DOLLAR SIGNaCREDIT CARDaBANKNOTE WITH YEN SIGNcDOLLARncEUROncPOUNDn",
    "aMONEY WITH WINGSaCHART WITH UPWARDS TREND AND YEN SIGNaSEATaPERSONAL COMPUTERaBRIEFCASE",
    "aMINIDISCaFLOPPY DISKaOPTICAL DISCaDVDaFILE FOLDERaOPENoaPAGE WITH CURLbFACING UPaCALENDAR",
    "aTEAR-OFFnaCARD INDEXaCHART WITH UPWARDS TRENDcDOWNWARDSnaBAR CHARTaCLIPBOARDaPUSHPINaROUNDn",
    "aPAPERCLIPaSTRAIGHT RULERaTRIANGULARnaBOOKMARK TABSaLEDGERaNOTEBOOKbWITH DECORATIVE COVER",
    "aCLOSED BOOKaOPENnaGREENnaBLUEnaORANGEnaBOOKSaNAME BADGEaSCROLLaMEMOaTELEPHONE RECEIVER",
    "aPAGERaFAX MACHINEaSATELLITE ANTENNAaPUBLIC ADDRESS LOUDSPEAKERaCHEERING MEGAPHONE",
    "aOUTBOX TRAYaINBOXnaPACKAGEaE-MAIL SYMBOLaINCOMING ENVELOPE",
    "aENVELOPE WITH DOWNWARDS ARROW ABOVEaCLOSED MAILBOX WITH LOWERED FLAGdRAISEDnaOPENqdLOWEREDn",
    "aPOSTBOXaPOSTAL HORNaNEWSPAPERaMOBILE PHONEcWITH RIGHTWARDS ARROW AT LEFTaVIBRATION MODE",
    "aMOBILE PHONE OFFaNO MOBILE PHONESaANTENNA WITH BARSaCAMERAbWITH FLASHaVIDEO CAMERA",
    "aTELEVISIONaRADIOaVIDEOCASSETTEaFILM PROJECTORaPORTABLE STEREOaPRAYER BEADS",
    "aTWISTED RIGHTWARDS ARROWSaCLOCKWISE RIGHTWARDS AND LEFTWARDS OPEN CIRCLEn",
    "hWITH CIRCLED ONE OVERLAYbDOWNWARDS AND UPWARDS OPEN CIRCLE ARROWSaANTICLOCKWISEs",
    "aLOW BRIGHTNESS SYMBOLaHIGHoaSPEAKER WITH CANCELLATION STROKEbbWITH ONE SOUND WAVE",
    "cTHREE SOUND WAVESaBATTERYaELECTRIC PLUGaLEFT-POINTING MAGNIFYING GLASSaRIGHT-POINTINGo",
    "aLOCK WITH INK PENaCLOSED LOCK WITH KEYanaLOCKaOPENnaBELLbWITH CANCELLATION STROKEaBOOKMARK",
    "aLINK SYMBOLaRADIO BUTTONaBACK WITH LEFTWARDS ARROW ABOVEaENDq",
    "aON WITH EXCLAMATION MARK WITH LEFT RIGHToaSOON WITH RIGHTWARDSoaTOP WITH UPWARDSo",
    "aNO ONE UNDER EIGHTEEN SYMBOLaKEYCAP TENaINPUT SYMBOL FOR LATIN CAPITAL LETTERSeSMALLn",
    "dNUMBERSdSYMBOLSdLATIN LETTERSaFIREaELECTRIC TORCHaWRENCHaHAMMERaNUT AND BOLTaHOCHOaPISTOL",
    "aMICROSCOPEaTELESCOPEaCRYSTAL BALLaSIX POINTED STAR WITH MIDDLE DOT",
    "aJAPANESE SYMBOL FOR BEGINNERaTRIDENT EMBLEMaBLACK SQUARE BUTTONaWHITEoaLARGE RED CIRCLE",
    "bBLUEnbORANGE DIAMONDbBLUEnaSMALL ORANGEnbBLUEnaUP-POINTING RED TRIANGLEaDOWN-POINTINGo",
    "aUP-POINTING SMALLoaDOWN-POINTINGpaLOWER RIGHT SHADOWED WHITE CIRCLEaUPPERq",
    "aCIRCLED CROSS POMMEEaCROSS POMMEE WITH HALF-CIRCLE BELOWc",
    "aNOTCHED LEFT SEMICIRCLE WITH THREE DOTSbRIGHTqaSYMBOL FOR MARKS CHAPTERaWHITE LATIN CROSS",
    "aHEAVYoaCELTICnaOM SYMBOLaDOVE OF PEACEaKAABAaMOSQUEaSYNAGOGUEaMENORAH WITH NINE BRANCHES",
    "aBOWL OF HYGIEIAaCLOCK FACE ONE OCLOCKcTWOncTHREEncFOURncFIVEncSIXncSEVENncEIGHTncNINEncTENn",
    "cELEVENncTWELVEncONE-THIRTYcTWO-THIRTYcTHREE-THIRTYcFOUR-THIRTYcFIVE-THIRTYcSIX-THIRTY",
    "cSEVEN-THIRTYcEIGHT-THIRTYcNINE-THIRTYcTEN-THIRTYcELEVEN-THIRTYcTWELVE-THIRTYaRIGHT SPEAKER",
    "cWITH ONE SOUND WAVEdTHREE SOUND WAVESaBULLHORNbWITH SOUND WAVESaRINGING BELLaBOOKaCANDLE",
    "aMANTELPIECE CLOCKaBLACK SKULL AND CROSSBONESaNO PIRACYaHOLEaMAN IN BUSINESS SUIT LEVITATING",
    "aSLEUTH OR SPYaDARK SUNGLASSESaSPIDERbWEBaJOYSTICKaMAN DANCINGaLEFT HAND TELEPHONE RECEIVER",
    "aTELEPHONE RECEIVER WITH PAGEaRIGHT HAND TELEPHONE RECEIVERaWHITE TOUCHTONE TELEPHONEaBLACKo",
    "aTELEPHONE ON TOP OF MODEMaCLAMSHELL MOBILE PHONEaBACK OF ENVELOPEaSTAMPEDn",
    "aENVELOPE WITH LIGHTNINGaFLYING ENVELOPEaPEN OVER STAMPEDnaLINKED PAPERCLIPSaBLACK PUSHPIN",
    "aLOWER LEFT PENCILcBALLPOINT PENcFOUNTAINncPAINTBRUSHcCRAYONaLEFT WRITING HAND",
    "aTURNED OK HAND SIGNaRAISED HAND WITH FINGERS SPLAYEDaREVERSEDrbTHUMBS UP SIGNcDOWNn",
    "bVICTORY HANDbHAND WITH MIDDLE FINGER EXTENDED",
    "aRAISED HAND WITH PART BETWEEN MIDDLE AND RING FINGERSaWHITE DOWN POINTING LEFT HAND INDEX",
    "aSIDEWAYS WHITE LEFT POINTINGncRIGHTobBLACK LEFTocRIGHToaBLACK LEFT POINTING BACKHANDn",
    "bRIGHTpaSIDEWAYS WHITE UP POINTINGncDOWNobBLACK UPocDOWNoaBLACK UP POINTING BACKHANDnbDOWNp",
    "bHEARTaDESKTOP COMPUTERaKEYBOARD AND MOUSEaTHREE NETWORKED COMPUTERSaPRINTER",
    "aPOCKET CALCULATORaBLACK HARD SHELL FLOPPY DISKaWHITEqaSOFTpaTAPE CARTRIDGEaWIRED KEYBOARD",
    "aONE BUTTON MOUSEaTWOoaTHREEoaTRACKBALLaOLD PERSONAL COMPUTERaHARD DISKaSCREENaPRINTER ICON",
    "aFAXnaOPTICAL DISCnaDOCUMENT WITH TEXTdAND PICTUREcnaFRAMEocTILEScAN XaBLACK FOLDERanaOPENn",
    "aCARD INDEX DIVIDERSbFILE BOXaFILE CABINETaEMPTY NOTEcPAGEcPADaNOTEbPAGEbPADaEMPTY DOCUMENT",
    "bPAGEbPAGESaDOCUMENTaPAGEaPAGESaWASTEBASKETaSPIRAL NOTE PADbCALENDARnaDESKTOP WINDOW",
    "aMINIMIZEaMAXIMIZEaOVERLAPaCLOCKWISE RIGHT AND LEFT SEMICIRCLE ARROWSaCANCELLATION X",
    "aINCREASE FONT SIZE SYMBOLaDECREASEpaCOMPRESSIONaOLD KEYaROLLED-UP NEWSPAPER",
    "aPAGE WITH CIRCLED TEXTaSTOCK CHARTaDAGGER KNIFEaLIPSaSPEAKING HEAD IN SILHOUETTE",
    "aTHREE RAYS ABOVEcBELOWcLEFTcRIGHTaLEFT SPEECH BUBBLEaRIGHToaTWO SPEECH BUBBLESaTHREEo",
    "aLEFT THOUGHT BUBBLEaRIGHToaLEFT ANGERnaRIGHToaMOODnaLIGHTNINGocaBALLOT BOX WITH BALLOT",
    "bSCRIPT XbBOX WITHobBOLDobBOX WITHpaLIGHT CHECK MARKaBALLOT BOX WITH BOLD CHECKaWORLD MAP",
    "aMOUNT FUJIaTOKYO TOWERaSTATUE OF LIBERTYaSILHOUETTE OF JAPANaMOYAIaGRINNING FACE",
    "cWITH SMILING EYESaFACE WITH TEARS OF JOYaSMILING FACE WITH OPEN MOUTHfAND SMILING EYES",
    "gCOLD SWEATgTIGHTLY-CLOSED EYESdHALOdHORNSaWINKING FACEaSMILING FACE WITH SMILING EYES",
    "aFACE SAVOURING DELICIOUS FOODaRELIEVED FACEaSMILING FACE WITH HEART-SHAPED EYESdSUNGLASSES",
    "aSMIRKING FACEaNEUTRALnaEXPRESSIONLESSnaUNAMUSEDnaFACE WITH COLD SWEATaPENSIVE FACE",
    "aCONFUSEDnaCONFOUNDEDnaKISSINGnaFACE THROWING A KISSaKISSING FACE WITH SMILING EYESdCLOSEDn",
    "aFACE WITH STUCK-OUT TONGUEeAND WINKING EYEfTIGHTLY-CLOSED EYESaDISAPPOINTED FACEaWORRIEDn",
    "aANGRYnaPOUTINGnaCRYINGnaPERSEVERINGnaFACE WITH LOOK OF TRIUMPH",
    "aDISAPPOINTED BUT RELIEVED FACEaFROWNING FACE WITH OPEN MOUTHaANGUISHED FACEaFEARFULnaWEARYn",
    "aSLEEPYnaTIREDnaGRIMACINGnaLOUDLY CRYINGnaFACE WITH OPEN MOUTHaHUSHED FACE",
    "aFACE WITH OPEN MOUTH AND COLD SWEATbSCREAMING IN FEARaASTONISHED FACEaFLUSHEDnaSLEEPINGn",
    "aDIZZYnaFACE WITHOUT MOUTHbWITH MEDICAL MASKaGRINNING CAT FACE WITH SMILING EYES",
    "aCAT FACE WITH TEARS OF JOYaSMILING CAT FACE WITH OPEN MOUTHeHEART-SHAPED EYES",
    "aCAT FACE WITH WRY SMILEaKISSING CAT FACE WITH CLOSED EYESaPOUTING CAT FACEaCRYINGoaWEARYo",
    "aSLIGHTLY FROWNINGnbSMILINGnaUPSIDE-DOWNnaFACE WITH ROLLING EYEScNO GOOD GESTUREcOKn",
    "aPERSON BOWING DEEPLYaSEE-NO-EVIL MONKEYaHEAR-NO-EVILnaSPEAK-NO-EVILn",
    "aHAPPY PERSON RAISING ONE HANDaPERSON RAISING BOTH HANDS IN CELEBRATIONbFROWNING",
    "bWITH POUTING FACEcFOLDED HANDSaNORTH WEST POINTING LEAFaSOUTHpaNORTH EASToaSOUTHp",
    "aTURNED NORTH WESTobSOUTHpbNORTH EASTobSOUTHpaNORTH WEST POINTING VINEnaSOUTHqaNORTH EASTp",
    "aSOUTHqaHEAVY NORTH WESTpbSOUTHqbNORTH EASTpbSOUTHqaNORTH WEST POINTING BUDaSOUTHp",
    "aNORTH EASToaSOUTHpaHEAVY NORTH WESTobSOUTHpbNORTH EASTobSOUTHpaHOLLOW QUILT SQUARE ORNAMENT",
    "eIN BLACK SQUAREaSOLID QUILT SQUARE ORNAMENTeIN BLACK SQUAREaLEFTWARDS ROCKETaUPWARDSn",
    "aRIGHTWARDSnaDOWNWARDSnaSCRIPT LIGATURE ET ORNAMENTaHEAVYqaLIGATURE OPENoaHEAVYqbAMPERSANDn",
    "aSWASHoaSANS-SERIF HEAVY DOUBLE TURNED COMMA QUOTATION MARKndqcLOWraHEAVY INTERROBANGn",
    "aSANS-SERIFoaHEAVYpaVERY HEAVY SOLIDUScREVERSEnaCHECKER BOARDaREVERSEoaROCKETaHELICOPTER",
    "aSTEAM LOCOMOTIVEaRAILWAY CARaHIGH-SPEED TRAINcWITH BULLET NOSEaTRAINaMETROaLIGHT RAIL",
    "aSTATIONaTRAMbCARaBUSaONCOMINGnaTROLLEYBUSaBUS STOPaMINIBUSaAMBULANCEaFIRE ENGINEaPOLICE CAR",
    "aONCOMINGoaTAXIaONCOMINGnaAUTOMOBILEaONCOMINGnaRECREATIONAL VEHICLEaDELIVERY TRUCK",
    "aARTICULATED LORRYaTRACTORaMONORAILaMOUNTAIN RAILWAYaSUSPENSIONnaMOUNTAIN CABLEWAY",
    "aAERIAL TRAMWAYaSHIPaROWBOATaSPEEDBOATaHORIZONTAL TRAFFIC LIGHTaVERTICALoaCONSTRUCTION SIGN",
    "aPOLICE CARS REVOLVING LIGHTaTRIANGULAR FLAG ON POSTaDOORaNO ENTRY SIGNaSMOKING SYMBOLaNOo",
    "aPUT LITTER IN ITS PLACEnaDO NOT LITTERnaPOTABLE WATERnaNON-POTABLEoaBICYCLEaNO BICYCLES",
    "aBICYCLISTaMOUNTAINnaPEDESTRIANaNO PEDESTRIANSaCHILDREN CROSSINGaMENS SYMBOLaWOMENSn",
    "aRESTROOMaBABY SYMBOLaTOILETaWATER CLOSETaSHOWERaBATHaBATHTUBaPASSPORT CONTROLaCUSTOMS",
    "aBAGGAGE CLAIMaLEFT LUGGAGEaTRIANGLE WITH ROUNDED CORNERSaPROHIBITED SIGN",
    "aCIRCLED INFORMATION SOURCEaBOYS SYMBOLaGIRLSnaCOUCH AND LAMPaSLEEPING ACCOMMODATION",
    "aSHOPPING BAGSaBELLHOP BELLaBEDaPLACE OF WORSHIPaOCTAGONAL SIGNaSHOPPING TROLLEYaSTUPA",
    "aPAGODAaHINDU TEMPLEaHUTaELEVATOR"]⟩,
  ⟨0x1F6DD, [
    "aPLAYGROUND SLIDEaWHEELaRING BUOYaHAMMER AND WRENCHaSHIELDaOIL DRUMaMOTORWAYaRAILWAY TRACK",
    "aMOTOR BOATaUP-POINTING MILITARY AIRPLANEbnbSMALLnaoaNORTHEAST-POINTINGnaAIRPLANE DEPARTURE",
    "bARRIVING___aSATELLITEaONCOMING FIRE ENGINEaDIESEL LOCOMOTIVEaPASSENGER SHIPaSCOOTERaMOTORn",
    "aCANOEaSLEDaFLYING SAUCERaSKATEBOARDaAUTO RICKSHAWaPICKUP TRUCKaROLLER SKATE___",
    "aALCHEMICAL SYMBOL FOR QUINTESSENCEdAIRdFIREdEARTHdWATERdAQUAFORTISdAQUA REGIAeREGIA-2eVITAE",
    "eVITAE-2dVINEGARdVINEGAR-2+dSULFURdPHILOSOPHERSndBLACKndMERCURY SUBLIMATEeSUBLIMATE-2+",
    "dCINNABARdSALTdNITREdVITRIOLdVITRIOL-2dROCK SALTeSALT-2dGOLDdSILVERdIRON OREeORE-2",
    "dCROCUS OF IRONdREGULUSodCOPPER OREdIRON-COPPERndSUBLIMATE OF COPPERdCROCUSofCOPPER-2",
    "dCOPPER ANTIMONIATEdSALT OFodSUBLIMATE OF SALT OF COPPERdVERDIGRISdTIN OREdLEADndANTIMONYn",
    "dSUBLIMATE OF ANTIMONYdSALTodSUBLIMATE OFpdVINEGARodREGULUSofANTIMONY-2edREGULUS-2++dALKALI",
    "dALKALI-2dMARCASITEdSAL-AMMONIACdARSENICdREALGARdREALGAR-2dAURIPIGMENTdBISMUTH OREdTARTAR",
    "dTARTAR-2dQUICK LIMEdBORAXdBORAX-2+dALUMdOILdSPIRITdTINCTUREdGUMdWAXdPOWDERdCALXdTUTTY",
    "dCAPUT MORTUUMdSCEPTER OF JOVEdCADUCEUSdTRIDENTdSTARREDndLODESTONEdSOAPdURINEdHORSE DUNG",
    "dASHESdPOTndBRICKdPOWDEREDndAMALGAMdSTRATUM SUPER STRATUMfSTRATUM-2dSUBLIMATIONdPRECIPITATE",
    "dDISTILLdDISSOLVEdDISSOLVE-2dPURIFYdPUTREFACTIONdCRUCIBLEdCRUCIBLE-2+++dALEMBICdBATH OF MARY",
    "fVAPOURSdRETORTdHOURdNIGHTdDAY-NIGHTdMONTHdHALF DRAMeOUNCE"]⟩,
  ⟨0x1F780, [
    "aBLACK LEFT-POINTING ISOSCELES RIGHT TRIANGLEbUP-POINTINGpbRIGHT-POINTINGpbDOWN-POINTINGp",
    "bSLIGHTLY SMALL CIRCLEaMEDIUM BOLD WHITEnapaHEAVYoaVERYpaEXTREMELYp",
    "aWHITE CIRCLE CONTAINING BLACK SMALLnaROUND TARGETaBLACK TINY SQUAREbSLIGHTLY SMALLn",
    "aLIGHT WHITEnaMEDIUMoaBOLDoaHEAVYoaVERYpaEXTREMELYp",
    "aWHITE SQUARE CONTAINING BLACK VERY SMALLneMEDIUMnaSQUARE TARGETaBLACK TINY DIAMOND",
    "bVERY SMALLnbMEDIUMoaWHITE DIAMOND CONTAINING BLACK VERYoeMEDIUMnaDIAMOND TARGET",
    "aBLACK TINY LOZENGEbVERY SMALLnbMEDIUMoaWHITE LOZENGE CONTAINING BLACKoaTHIN GREEK CROSS",
    "aLIGHToaMEDIUMoaBOLDoaVERYpbHEAVYoaEXTREMELYpaTHIN SALTIREaLIGHTnaMEDIUMnaBOLDnaHEAVYnaVERYo",
    "aEXTREMELYoaLIGHT FIVE SPOKED ASTERISKaMEDIUMpaBOLDpaHEAVYpaVERYqaEXTREMELYqaLIGHT SIXo",
    "aMEDIUMpaBOLDpaHEAVYpaVERYqaEXTREMELYqaLIGHT EIGHToaMEDIUMpaBOLDpaHEAVYpaVERYq",
    "aLIGHT THREE POINTED BLACK STARaMEDIUMqaqaMEDIUM THREE POINTED PINWHEELn",
    "aLIGHT FOUR POINTED BLACKnaMEDIUMqaqaMEDIUM FOUR POINTED PINWHEELnaREVERSE LIGHTq",
    "aLIGHT FIVE POINTED BLACKnaHEAVYqaMEDIUM SIXpaHEAVYqaSIX POINTED PINWHEELn",
    "aMEDIUM EIGHT POINTED BLACKnaHEAVYqaVERYraHEAVY EIGHT POINTED PINWHEELn",
    "aLIGHT TWELVE POINTED BLACKnaHEAVYqdPINWHEELnaCIRCLED TRIANGLEaNEGATIVEoaCIRCLED SQUARE",
    "aNEGATIVEo"]⟩,
  ⟨0x1F7E0, [
    "aLARGE ORANGE CIRCLEbYELLOWnbGREENnbPURPLEnbBROWNnbRED SQUAREbBLUEnbORANGEnbYELLOWnbGREENn",
    "bPURPLEnbBROWNn"]⟩,
  ⟨0x1F7F0, [
    "aHEAVY EQUALS SIGN"]⟩,
  ⟨0x1F800, [
    "aLEFTWARDS ARROW WITH SMALL TRIANGLE ARROWHEADaUPWARDSraRIGHTWARDSraDOWNWARDSr",
    "aLEFTWARDS ARROW WITH MEDIUMoaUPWARDSraRIGHTWARDSraDOWNWARDSraLEFTWARDS ARROW WITH LARGEo",
    "aUPWARDSraRIGHTWARDSraDOWNWARDSr"]⟩,
  ⟨0x1F810, [
    "aLEFTWARDS ARROW WITH SMALL EQUILATERAL ARROWHEADaUPWARDSraRIGHTWARDSraDOWNWARDSr",
    "aLEFTWARDS ARROW WITHoaUPWARDSqaRIGHTWARDSqaDOWNWARDSqaHEAVY LEFTWARDSqbUPWARDSqbRIGHTWARDSq",
    "bDOWNWARDSqbLEFTWARDS ARROW WITH LARGEobUPWARDSrbRIGHTWARDSrbDOWNWARDSr",
    "aLEFTWARDS TRIANGLE-HEADED ARROW WITH NARROW SHAFTaUPWARDSraRIGHTWARDSraDOWNWARDSr",
    "aLEFTWARDS TRIANGLE-HEADED ARROW WITH MEDIUMnaUPWARDSraRIGHTWARDSraDOWNWARDSr",
    "aLEFTWARDS TRIANGLE-HEADED ARROW WITH BOLDnaUPWARDSraRIGHTWARDSraDOWNWARDSr",
    "aLEFTWARDS TRIANGLE-HEADED ARROW WITH HEAVYnaUPWARDSraRIGHTWARDSraDOWNWARDSr",
    "aLEFTWARDS TRIANGLE-HEADED ARROW WITH VERYoaUPWARDSsaRIGHTWARDSsaDOWNWARDSs",
    "aLEFTWARDS FINGER-POST ARROWaUPWARDSoaRIGHTWARDSoaDOWNWARDSoaLEFTWARDS SQUAREDnaUPWARDSo",
    "aRIGHTWARDSoaDOWNWARDSoaLEFTWARDS COMPRESSEDnaUPWARDSoaRIGHTWARDSoaDOWNWARDSo",
    "aLEFTWARDS HEAVYoaUPWARDSpaRIGHTWARDSpaDOWNWARDSpaLEFTWARDS HEAVYnaUPWARDSoaRIGHTWARDSo",
    "aDOWNWARDSo"]⟩,
  ⟨0x1F850, [
    "aLEFTWARDS SANS-SERIF ARROWaUPWARDSoaRIGHTWARDSoaDOWNWARDSoaNORTH WESTobEASToaSOUTHpbWESTo",
    "aLEFT RIGHToaUP DOWNo"]⟩,
  ⟨0x1F860, [
    "aWIDE-HEADED LEFTWARDS LIGHT BARB ARROWbUPWARDSpbRIGHTWARDSpbDOWNWARDSpbNORTH WESTpcEASTp",
    "bSOUTHqcWESTpbLEFTWARDSobUPWARDSobRIGHTWARDSobDOWNWARDSobNORTH WESTocEASTobSOUTHpcWESTo",
    "bLEFTWARDS MEDIUMobUPWARDSpbRIGHTWARDSpbDOWNWARDSpbNORTH WESTpcEASTpbSOUTHqcWESTp",
    "bLEFTWARDS HEAVYobUPWARDSpbRIGHTWARDSpbDOWNWARDSpbNORTH WESTpcEASTpbSOUTHqcWESTp",
    "bLEFTWARDS VERYpbUPWARDSqbRIGHTWARDSqbDOWNWARDSqbNORTH WESTqcEASTqbSOUTHrcWESTq"]⟩,
  ⟨0x1F890, [
    "aLEFTWARDS TRIANGLE ARROWHEADaUPWARDSoaRIGHTWARDSoaDOWNWARDSoaLEFTWARDS WHITE ARROW WITHINo",
    "aUPWARDSraRIGHTWARDSraDOWNWARDSraLEFTWARDS ARROW WITH NOTCHED TAILaUPWARDSqaRIGHTWARDSq",
    "aDOWNWARDSqaHEAVY ARROW SHAFT WIDTH ONEeTWO THIRDSeONE HALFfTHIRD",
    "aLEFTWARDS BOTTOM-SHADED WHITE ARROWaRIGHTWARDS BOTTOM SHADEDoaLEFTWARDS TOPpaRIGHTWARDSq",
    "aLEFTWARDS LEFT-SHADEDoaRIGHTWARDS RIGHT-SHADEDoaLEFTWARDSpaRIGHTWARDS LEFT-SHADEDo",
    "aLEFTWARDS BACK-TILTED SHADOWEDoaRIGHTWARDSqaLEFTWARDS FRONT-TILTEDpaRIGHTWARDSq",
    "aWHITE ARROW SHAFT WIDTH ONEeTWO THIRDS__aARROW POINTING UPWARDS THEN NORTH WEST",
    "cRIGHTWARDS THEN CURVING SOUTHn"]⟩,
  ⟨0x1F900, [
    "aCIRCLED CROSS FORMEE WITH FOUR DOTSeTWOndaLEFT HALF CIRCLE WITH FOUR DOTSeTHREEneTWOneDOTd",
    "aDOWNWARD FACING HOOKcNOTCHEDncHOOK WITH DOTcNOTCHEDpaPINCHED FINGERSaWHITE HEARTaBROWNn",
    "aPINCHING HANDaZIPPER-MOUTH FACEaMONEY-MOUTHnaFACE WITH THERMOMETERaNERD FACEaTHINKINGn",
    "aFACE WITH HEAD-BANDAGEaROBOT FACEaHUGGINGnaSIGN OF THE HORNSaCALL ME HANDaRAISED BACK OFn",
    "aLEFT-FACING FISTaRIGHT-FACINGnaHANDSHAKEaHAND WITH INDEX AND MIDDLE FINGERS CROSSED",
    "aI LOVE YOU HAND SIGNaFACE WITH COWBOY HATaCLOWN FACEaNAUSEATEDn",
    "aROLLING ON THE FLOOR LAUGHINGaDROOLING FACEaLYINGnaFACE PALMaSNEEZING FACE",
    "aFACE WITH ONE EYEBROW RAISEDaGRINNING FACE WITH STAR EYESdONE LARGE AND ONE SMALL EYE",
    "aFACE WITH FINGER COVERING CLOSED LIPSaSERIOUS FACE WITH SYMBOLS COVERING MOUTH",
    "aSMILING FACE WITH SMILING EYES AND HANDoaFACE WITH OPEN MOUTH VOMITING",
    "aSHOCKED FACE WITH EXPLODING HEADaPREGNANT WOMANaBREAST-FEEDINGaPALMS UP TOGETHERaSELFIE",
    "aPRINCEaMAN IN TUXEDOaMOTHER CHRISTMASaSHRUGaPERSON DOING CARTWHEELaJUGGLINGaFENCER",
    "aMODERN PENTATHLONaWRESTLERSaWATER POLOaHANDBALLaDIVING MASKaWILTED FLOWER",
    "aDRUM WITH DRUMSTICKSaCLINKING GLASSESaTUMBLER GLASSaSPOONaGOAL NETaRIFLEaFIRST PLACE MEDAL",
    "aSECONDoaTHIRDoaBOXING GLOVEaMARTIAL ARTS UNIFORMaCURLING STONEaLACROSSE STICK AND BALL",
    "aSOFTBALLaFLYING DISCaCROISSANTaAVOCADOaCUCUMBERaBACONaPOTATOaCARROTaBAGUETTE BREAD",
    "aGREEN SALADaSHALLOW PAN OF FOODaSTUFFED FLATBREADaEGGaGLASS OF MILKaPEANUTSaKIWIFRUIT",
    "aPANCAKESaDUMPLINGaFORTUNE COOKIEaTAKEOUT BOXaCHOPSTICKSaBOWL WITH SPOONaCUP WITH STRAW",
    "aCOCONUTaBROCCOLIaPIEaPRETZELaCUT OF MEATaSANDWICHaCANNED FOODaLEAFY GREENaMANGOaMOON CAKE",
    "aBAGELaSMILING FACE WITH SMILING EYES AND THREE HEARTSaYAWNING FACEaSMILING FACE WITH TEAR",
    "aFACE WITH PARTY HORN AND PARTY HATcUNEVEN EYES AND WAVY MOUTHaOVERHEATED FACEaFREEZINGn",
    "aNINJAaDISGUISED FACEaFACE HOLDING BACK TEARSbWITH PLEADING EYESaSARIaLAB COATaGOGGLES",
    "aHIKING BOOTaFLAT SHOEaCRABaLION FACEaSCORPIONaTURKEYaUNICORN FACEaEAGLEaDUCKaBATaSHARKaOWL",
    "aFOX FACEaBUTTERFLYaDEERaGORILLAaLIZARDaRHINOCEROSaSHRIMPaSQUIDaGIRAFFE FACEaZEBRAnaHEDGEHOG",
    "aSAUROPODaT-REXaCRICKETaKANGAROOaLLAMAaPEACOCKaHIPPOPOTAMUSaPARROTaRACCOONaLOBSTERaMOSQUITO",
    "aMICROBEaBADGERaSWANaMAMMOTHaDODOaSLOTHaOTTERaORANGUTANaSKUNKaFLAMINGOaOYSTERaBEAVERaBISON",
    "aSEALaGUIDE DOGaPROBING CANEaEMOJI COMPONENT RED HAIRcCURLYncBALDcWHITE HAIRaBONEaLEGaFOOT",
    "aTOOTHaSUPERHEROaSUPERVILLAINaSAFETY VESTaEAR WITH HEARING AIDaMOTORIZED WHEELCHAIRaMANUALn",
    "aMECHANICAL ARMbLEGaCHEESE WEDGEaCUPCAKEaSALT SHAKERaBEVERAGE BOXaGARLICaONIONaFALAFEL",
    "aWAFFLEaBUTTERaMATE DRINKaICE CUBEaBUBBLE TEAaTROLLaSTANDING PERSONaKNEELINGnaDEAFn",
    "aFACE WITH MONOCLEaADULTaCHILDaOLDER ADULTaBEARDED PERSONaPERSON WITH HEADSCARF",
    "bIN STEAMY ROOMbCLIMBINGbIN LOTUS POSITIONaMAGEaFAIRYaVAMPIREaMERPERSONaELFaGENIEaZOMBIE",
    "aBRAINaORANGE HEARTaBILLED CAPaSCARFaGLOVESaCOATaSOCKSaRED GIFT ENVELOPEaFIRECRACKER",
    "aJIGSAW PUZZLE PIECEaTEST TUBEaPETRI DISHaDNA DOUBLE HELIXaCOMPASSaABACUSaFIRE EXTINGUISHER",
    "aTOOLBOXaBRICKaMAGNETaLUGGAGEaLOTION BOTTLEaSPOOL OF THREADaBALL OF YARNaSAFETY PIN",
    "aTEDDY BEARaBROOMaBASKETaROLL OF PAPERaBAR OF SOAPaSPONGEaRECEIPTaNAZAR AMULET",
    "aNEUTRAL CHESS KINGcQUEENcROOKcBISHOPcKNIGHTcPAWN",
    "aWHITE CHESS KNIGHT ROTATED FORTY-FIVE DEGREESaBLACKraNEUTRALr",
    "aWHITE CHESS KING ROTATED NINETYncQUEENpcROOKpcBISHOPpcKNIGHTpcPAWNpaBLACK CHESS KINGp",
    "cQUEENpcROOKpcBISHOPpcKNIGHTpcPAWNpaNEUTRAL CHESS KINGpcQUEENpcROOKpcBISHOPpcKNIGHTpcPAWNp",
    "aWHITE CHESS KNIGHT ROTATED ONE HUNDRED THIRTY-FIVEnaBLACKtaNEUTRALtaWHITE CHESS TURNED KING",
    "dQUEENdROOKdBISHOPdKNIGHTdPAWNaBLACK CHESS TURNED KINGdQUEENdROOKdBISHOPdKNIGHTdPAWN",
    "aNEUTRAL CHESS TURNED KINGdQUEENdROOKdBISHOPdKNIGHTdPAWN",
    "aWHITE CHESS KNIGHT ROTATED TWO HUNDRED TWENTY-FIVE DEGREESaBLACKtaNEUTRALt",
    "aWHITE CHESS KING ROTATED TWO HUNDRED SEVENTYncQUEENrcROOKrcBISHOPrcKNIGHTrcPAWNr",
    "aBLACK CHESS KINGrcQUEENrcROOKrcBISHOPrcKNIGHTrcPAWNraNEUTRAL CHESS KINGrcQUEENrcROOKr",
    "cBISHOPrcKNIGHTrcPAWNraWHITE CHESS KNIGHT ROTATED THREE HUNDRED FIFTEENnaBLACKtaNEUTRALt",
    "aWHITE CHESS EQUIHOPPERaBLACKoaNEUTRALoaWHITE CHESS EQUIHOPPER ROTATED NINETY DEGREESaBLACKr",
    "aNEUTRALraWHITE CHESS KNIGHT-QUEENcKNIGHT-ROOKcKNIGHT-BISHOPaBLACK CHESS KNIGHT-QUEEN",
    "cKNIGHT-ROOKcKNIGHT-BISHOP"]⟩,
  ⟨0x1FA60, [
    "aXIANGQI RED GENERALcMANDARINcELEPHANTcHORSEcCHARIOTcCANNONcSOLDIERbBLACK GENERALcMANDARIN",
    "cELEPHANTcHORSEcCHARIOTcCANNONcSOLDIER__aBALLET SHOESaONE-PIECE SWIMSUITaBRIEFSaSHORTS",
    "aTHONG SANDAL___aDROP OF BLOODaADHESIVE BANDAGEaSTETHOSCOPEaX-RAYaCRUTCH___aYO-YOaKITE",
    "aPARACHUTEaBOOMERANGaMAGIC WANDaPINATAaNESTING DOLLS"]⟩,
  ⟨0x1FA90, [
    "aRINGED PLANETaCHAIRaRAZORaAXEaDIYA LAMPaBANJOaMILITARY HELMETaACCORDIONaLONG DRUMaCOIN",
    "aCARPENTRY SAWaSCREWDRIVERaLADDERaHOOKaMIRRORaWINDOWaPLUNGERaSEWING NEEDLEaKNOTaBUCKET",
    "aMOUSE TRAPaTOOTHBRUSHaHEADSTONEaPLACARDaROCKaMIRROR BALLaIDENTIFICATION CARDaLOW BATTERY",
    "aHAMSA___aFLYaWORMaBEETLEaCOCKROACHaPOTTED PLANTaWOODaFEATHERaLOTUSaCORALaEMPTY NEST",
    "aNEST WITH EGGS"]⟩,
  ⟨0x1FAC0, [
    "aANATOMICAL HEARTaLUNGSaPEOPLE HUGGINGaPREGNANT MANbPERSONaPERSON WITH CROWN"]⟩,
  ⟨0x1FAD0, [
    "aBLUEBERRIESaBELL PEPPERaOLIVEaFLATBREADaTAMALEaFONDUEaTEAPOTaPOURING LIQUIDaBEANSaJAR"]⟩,
  ⟨0x1FAE0, [
    "aMELTING FACEaSALUTINGnaFACE WITH OPEN EYES AND HAND OVER MOUTHcPEEKING EYEcDIAGONAL MOUTH",
    "aDOTTED LINE FACEaBITING LIPaBUBBLES"]⟩,
  ⟨0x1FAF0, [
    "aHAND WITH INDEX FINGER AND THUMB CROSSEDaRIGHTWARDS HANDaLEFTWARDSnaPALM DOWNnbUPn",
    "aINDEX POINTING AT THE VIEWERaHEART HANDS"]⟩,
  ⟨0x1FB00, [
    "aBLOCK SEXTANT-1+bSEXTANT-12bSEXTANT-3bSEXTANT-13bSEXTANT-23bSEXTANT-123bSEXTANT-4",
    "bSEXTANT-14bSEXTANT-24bSEXTANT-124bSEXTANT-34bSEXTANT-134bSEXTANT-234bSEXTANT-1234bSEXTANT-5",
    "bSEXTANT-15bSEXTANT-25bSEXTANT-125bSEXTANT-35bSEXTANT-235bSEXTANT-1235bSEXTANT-45",
    "bSEXTANT-145bSEXTANT-245bSEXTANT-1245bSEXTANT-345bSEXTANT-1345bSEXTANT-2345bSEXTANT-12345",
    "bSEXTANT-6bSEXTANT-16bSEXTANT-26bSEXTANT-126bSEXTANT-36bSEXTANT-136bSEXTANT-236bSEXTANT-1236",
    "bSEXTANT-46bSEXTANT-146bSEXTANT-1246bSEXTANT-346bSEXTANT-1346bSEXTANT-2346bSEXTANT-12346",
    "bSEXTANT-56bSEXTANT-156bSEXTANT-256bSEXTANT-1256bSEXTANT-356bSEXTANT-1356bSEXTANT-2356",
    "bSEXTANT-12356bSEXTANT-456bSEXTANT-1456bSEXTANT-2456bSEXTANT-12456bSEXTANT-3456",
    "bSEXTANT-13456bSEXTANT-23456aLOWER LEFT BLOCK DIAGONAL LOWER MIDDLE LEFT TO LOWER CENTRE",
    "jRIGHTeUPPER MIDDLE LEFT TO LOWER CENTREjRIGHTfLEFT TO LOWER CENTRE",
    "bRIGHT BLOCK DIAGONAL UPPER MIDDLE LEFT TO UPPERnjRIGHTeLOWER MIDDLE LEFT TO UPPER CENTRE",
    "jRIGHTfLEFT TO UPPER CENTREfMIDDLE LEFT TO UPPER MIDDLE RIGHTfCENTRE TO LOWERofLEFTq",
    "fCENTRE TO UPPERofLEFTqfCENTRE TO UPPERnbLEFT BLOCK DIAGONAL UPPER CENTRE TO UPPER MIDDLEn",
    "fLEFTqfCENTRE TO LOWERofLEFTqfCENTRE TO LOWERnfMIDDLE LEFT TO LOWER MIDDLEn",
    "aUPPER RIGHT BLOCK DIAGONAL LOWER MIDDLE LEFT TO LOWER CENTREjRIGHT",
    "eUPPER MIDDLE LEFT TO LOWER CENTREjRIGHTfLEFT TO LOWER CENTRE",
    "bLEFT BLOCK DIAGONAL UPPER MIDDLE LEFT TO UPPERnjRIGHTeLOWER MIDDLE LEFT TO UPPER CENTRE",
    "jRIGHTfLEFT TO UPPER CENTREfMIDDLE LEFT TO UPPER MIDDLE RIGHTfCENTRE TO LOWERofLEFTq",
    "fCENTRE TO UPPERofLEFTqfCENTRE TO UPPERnbRIGHT BLOCK DIAGONAL UPPER CENTRE TO UPPER MIDDLEn",
    "fLEFTqfCENTRE TO LOWERofLEFTqfCENTRE TO LOWERnfMIDDLE LEFT TO LOWER MIDDLEn",
    "bAND RIGHT AND LOWER TRIANGULAR THREE QUARTERS BLOCKaLEFT AND LOWER AND RIGHTq",
    "aUPPER AND LEFT AND LOWERqaLEFT AND UPPER AND RIGHTqbTRIANGULAR ONE QUARTERnaUPPERqaRIGHTq",
    "aLOWERqaVERTICAL ONE EIGHTH BLOCK-2+++++aHORIZONTAL ONE EIGHTH BLOCK-2+++++",
    "aLEFT AND LOWER ONE EIGHTH BLOCKcUPPERpaRIGHTrcLOWERpaUPPERr",
    "aHORIZONTAL ONE EIGHTH BLOCK-1358aUPPER ONE QUARTER BLOCKbTHREE EIGHTHSnbFIVEo",
    "bTHREE QUARTERSnbSEVEN EIGHTHSnaRIGHT ONE QUARTERnbTHREE EIGHTHSnbFIVEobTHREE QUARTERSn",
    "bSEVEN EIGHTHSnaLEFT HALF MEDIUM SHADEaRIGHTpaUPPERpaLOWERpaINVERSEo",
    "aUPPER HALF BLOCK AND LOWER HALFpcINVERSE MEDIUM SHADE AND LOWER HALF BLOCK_",
    "aLEFT HALF INVERSE MEDIUM SHADE AND RIGHToaCHECKER BOARD FILLaINVERSEpaHEAVY HORIZONTALn",
    "aUPPER LEFT TO LOWER RIGHTnbRIGHT TO LOWER LEFTnbAND LOWER TRIANGULAR HALF BLOCK",
    "aLEFT AND RIGHTpaUPPER LEFT TRIANGULAR MEDIUM SHADEbRIGHTpaLOWERqbLEFTp",
    "aBOX DRAWINGS LIGHT DIAGONAL UPPER CENTRE TO MIDDLE LEFTiRIGHTeMIDDLE LEFT TO LOWER CENTRE",
    "fRIGHTpeUPPER CENTRE TO MIDDLE LEFTpiRIGHTpeMIDDLE LEFT TO LOWER CENTRE TO MIDDLE RIGHT",
    "hUPPERqeUPPER CENTRE TO MIDDLE LEFT AND MIDDLE RIGHT TO LOWER CENTREiRIGHT AND MIDDLE LEFTp",
    "jTO LOWER CENTRE TO MIDDLE LEFTiLEFT TO LOWER CENTRE TO MIDDLE RIGHT",
    "eMIDDLE LEFT TO UPPER CENTRE TO MIDDLE RIGHT TO LOWER CENTRE",
    "fRIGHT TO UPPER CENTRE TO MIDDLE LEFTpeDIAMONDdHORIZONTAL WITH VERTICAL STROKE",
    "aARROWHEAD-SHAPED POINTERaINVERSE CHECK MARKaLEFT HALF RUNNING MANaRIGHTp",
    "aINVERSE DOWNWARDS ARROW WITH TIP LEFTWARDS",
    "aLEFTWARDS ARROW AND UPPER AND LOWER ONE EIGHTH BLOCKaRIGHTWARDSuaDOWNWARDS ARROW AND RIGHTp",
    "aUPWARDSsaLEFT HALF FOLDERaRIGHToaVOIDED GREEK CROSSaRIGHT OPEN SQUARED DOT",
    "aNEGATIVE DIAGONAL CROSScMIDDLE RIGHT TO LOWER CENTREcDIAMOND",
    "aWHITE HEAVY SALTIRE WITH ROUNDED CORNERSaLEFT THIRD WHITE RIGHT POINTING INDEXaMIDDLEr",
    "aRIGHTraNEGATIVE SQUARED QUESTION MARKaSTICK FIGUREcWITH ARMS RAISEDcLEANING LEFTdRIGHT",
    "cWITH DRESSaWHITE UP-POINTING CHEVRON"]⟩,
  ⟨0x1FBF0, [
    "aSEGMENTED DIGIT ZEROcONEcTWOcTHREEcFOURcFIVEcSIXcSEVENcEIGHTcNINE"]⟩,
  ⟨0xE0001, [
    "aLANGUAGE TAG"]⟩,
  ⟨0xE0020, [
    "aTAG SPACEbEXCLAMATION MARKbQUOTATIONnbNUMBER SIGNbDOLLARnbPERCENTnbAMPERSANDbAPOSTROPHE",
    "bLEFT PARENTHESISbRIGHTnbASTERISKbPLUS SIGNbCOMMAbHYPHEN-MINUSbFULL STOPbSOLIDUSbDIGIT ZERO",
    "cONEcTWOcTHREEcFOURcFIVEcSIXcSEVENcEIGHTcNINEbCOLONbSEMICOLONbLESS-THAN SIGNbEQUALSn",
    "bGREATER-THANnbQUESTION MARKbCOMMERCIAL ATbLATIN CAPITAL LETTER AeBeCeDeEeFeGeHeIeJeKeLeMeN",
    "eOePeQeReSeTeUeVeWeXeYeZbLEFT SQUARE BRACKETbREVERSE SOLIDUSbRIGHT SQUARE BRACKET",
    "bCIRCUMFLEX ACCENTbLOW LINEbGRAVE ACCENTbLATIN SMALL LETTER AeBeCeDeEeFeGeHeIeJeKeLeMeNeOeP",
    "eQeReSeTeUeVeWeXeYeZbLEFT CURLY BRACKETbVERTICAL LINEbRIGHT CURLY BRACKETbTILDEaCANCEL TAG"]⟩,
  ⟨0xE0100, [
    "aVARIATION SELECTOR-17++++++++++++++++++++++++++++++++++++++++++++++++++++++++++++++++++++++",
    "++++++++++++++++++++++++++++++++++++++++++++++++++++++++++++++++++++++++++++++++++++++++++++",
    "+++++++++++++++++++++++++++++++++++++++++++++++++++++++++++++++++++++++++++++"]⟩]

end FormDialogue.Unicode
